import Stencil.Proofs.Script.Variables
import Stencil.Script.Run

/-!
# A script that never writes a variable leaves it

Assignments, definitions and loops name the variables that they write, and a function writes what it is
applied to only if it is one of those that change their first argument. So it can be read off a script
that it spares a name (`Statement.spares`), and a run of such a script leaves the variable of that
name as it was: by induction on the fuel, over everything that runs on it (`SparesAt`). The functions
of the script may do what they like, for they run on their parameters alone.
-/

set_option autoImplicit false

namespace Stencil.Script

variable {x : String} {w : Setting}

/-! ## 1. Scripts that spare a name -/

/-- The expression is the variable of the name. -/
def Expr.isVariable (x : String) : Expr → Bool
  | .variable y => y == x
  | _ => false

/-- The link applies a function that changes what it is applied to. -/
def Link.mutates : Link → Bool
  | .method f _ => mutating.contains f
  | _ => false

mutual

/-- The expression never writes a variable of the name. -/
def Expr.spares (x : String) : Expr → Bool
  | .literal _ => true
  | .variable _ => true
  | .list items => areSparing x items
  | .map fields => areFieldsSparing x fields
  | .chain root links =>
    root.spares x && areLinksSparing x links && !(root.isVariable x && links.any Link.mutates)
  | .call f args =>
    areSparing x args && !(mutating.contains f && args.head?.any (Expr.isVariable x))
  | .negative e => e.spares x
  | .positive e => e.spares x
  | .invert e => e.spares x
  | .binary _ a b => a.spares x && b.spares x
  | .both a b => a.spares x && b.spares x
  | .either a b => a.spares x && b.spares x
  | .block body => isBlockSparing x body

/-- None of the expressions writes a variable of the name. -/
def areSparing (x : String) : List Expr → Bool
  | [] => true
  | e :: rest => e.spares x && areSparing x rest

/-- None of the fields writes a variable of the name. -/
def areFieldsSparing (x : String) : List (String × Expr) → Bool
  | [] => true
  | (_, e) :: rest => e.spares x && areFieldsSparing x rest

/-- No index and no argument in the links writes a variable of the name. -/
def areLinksSparing (x : String) : List Link → Bool
  | [] => true
  | .property _ :: rest => areLinksSparing x rest
  | .index e :: rest => e.spares x && areLinksSparing x rest
  | .method _ args :: rest => areSparing x args && areLinksSparing x rest

/-- What may be missing does not write a variable of the name. -/
def isOptionSparing (x : String) : Option Expr → Bool
  | none => true
  | some e => e.spares x

/-- The statement never writes a variable of the name, nor makes one. -/
def Statement.spares (x : String) : Statement → Bool
  | .define _ y value => y != x && value.spares x
  | .assign y links _ value => y != x && areLinksSparing x links && value.spares x
  | .expression e => e.spares x
  | .choice condition yes no =>
    condition.spares x && isBlockSparing x yes && isBlockSparing x no
  | .repeatWhile condition body => condition.spares x && isBlockSparing x body
  | .repeatFor y counter sequence body =>
    y != x && counter != some x && sequence.spares x && isBlockSparing x body
  | .block body => isBlockSparing x body
  | .giveBack value => isOptionSparing x value
  | .raise value => isOptionSparing x value
  | .leave value => isOptionSparing x value
  | .next => true
  | .nothing => true

/-- No statement of the block writes or makes a variable of the name. -/
def isBlockSparing (x : String) : List Statement → Bool
  | [] => true
  | s :: rest => s.spares x && isBlockSparing x rest

end

theorem areLinksSparing_cons {link : Link} {rest : List Link} :
    areLinksSparing x (link :: rest) = true ↔
      areLinksSparing x [link] = true ∧ areLinksSparing x rest = true := by
  cases link <;> simp [areLinksSparing]

/-! ## 2. Functions and accesses -/

theorem spares_truth (d : Datum) : Spares x (truth d) := by
  unfold truth
  split
  · exact .pure _
  · exact spares_failure

theorem spares_operated (op : Operator) (d e : Datum) : Spares x (operated op d e) := by
  unfold operated
  split
  · exact spares_tick.bind fun _ => spares_given _
  · exact spares_given _

theorem spares_native (name : String) (self : Datum) (args : List Datum) :
    Spares x (w.native name self args) :=
  spares_given _

/-- A function leaves the variable that it is applied to, if it is not one of those that change. -/
theorem spares_nativeAt {name y : String} (h : y = x → mutating.contains name = false)
    (args : List Datum) (keys : List Datum.Key) : Spares x (w.nativeAt name args y keys) := by
  refine spares_change fun hy v r hregular hr => ?_
  rw [h hy, Bool.and_false, if_neg Bool.false_ne_true] at hr
  exact Datum.changeAt_eq_self (fun d r hr => applyNative_self (h hy) hr)
    (applyNative_unit _ _ _) hregular hr

theorem spares_nativeOn {name y : String} (h : y = x → mutating.contains name = false)
    (self : Datum) (args : List Datum) : Spares x (w.nativeOn y name self args) := by
  intro env henv
  unfold Setting.nativeOn
  split
  · exact spares_nativeAt h args [] env henv
  · exact spares_native name self args env henv

theorem spares_followPart (r : Reached) (step : Access) : Spares x (followPart r step) := by
  unfold followPart
  split
  · refine spares_tick.bind fun _ => ?_
    split
    · exact spares_given _
    · exact spares_tick.bind fun _ => spares_given _
  · exact spares_tick.bind fun _ => spares_given _
  · exact spares_failure

theorem spares_keysOf (steps : List Access) : Spares x (keysOf steps) := by
  fun_induction keysOf steps with
  | case1 => exact .pure []
  | case2 name rest ih => exact spares_tick.bind fun _ => ih.bind fun _ => .pure _
  | case3 i rest ih =>
    exact spares_tick.bind fun _ => (spares_given _).bind fun _ => ih.bind fun _ => .pure _
  | case4 => exact spares_failure

theorem spares_ticks (n : Nat) : Spares x (ticks n) := by
  induction n with
  | zero => exact .pure ()
  | succ n ih => exact spares_tick.bind fun _ => ih

theorem spares_assignAt {y : String} (h : y ≠ x) (keys : List Datum.Key) (op : Option Operator)
    (d : Datum) : Spares x (assignAt y keys op d) :=
  (spares_change fun hy => absurd hy h).bind fun _ => (spares_ticks _).bind fun _ => .pure _

/-! ## 3. What accesses lead to -/

/-- The access applies a function that changes what it is applied to. -/
def Access.mutates : Access → Bool
  | .method f _ => mutating.contains f
  | _ => false

theorem place_of_step? {r r' : Reached} {key : Datum.Key} (h : r.step? key = some r') {y : String}
    {keys : List Datum.Key} (hplace : r'.place = some (y, keys)) :
    ∃ keys', r.place = some (y, keys') := by
  obtain ⟨d, -, rfl⟩ := Option.map_eq_some_iff.1 h
  obtain ⟨-, hwhole⟩ := Option.ite_none_right_eq_some.1 hplace
  obtain ⟨p, hp, hpair⟩ := Option.map_eq_some_iff.1 hwhole
  exact ⟨p.2, by rw [hp, ← (Prod.mk.inj hpair).1]⟩

theorem given_eq_ok {α : Type} {o : Option α} {a : α} {env env' : Env}
    (h : given o env = (.ok a, env')) : o = some a := by
  cases o with
  | none => exact absurd (Prod.mk.inj h).1 (by simp)
  | some b => rw [Except.ok.inj (Prod.mk.inj h).1]

/-- What an access leads to has its place in the variable that it has started from, if any. -/
theorem place_of_followPart {r r' : Reached} {step : Access} {env env' : Env}
    (h : followPart r step env = (.ok r', env')) {y : String} {keys : List Datum.Key}
    (hplace : r'.place = some (y, keys)) : ∃ keys', r.place = some (y, keys') := by
  cases step with
  | property name =>
    obtain ⟨_, env₁, -, hrest⟩ := Step.bind_eq_ok h
    cases hdatum : r.datum with
    | map fields =>
      rw [hdatum] at hrest
      exact place_of_step? (given_eq_ok hrest) hplace
    | _ =>
      -- the result of a function has no place
      rw [hdatum] at hrest
      obtain ⟨_, env₂, -, hgiven⟩ := Step.bind_eq_ok hrest
      obtain ⟨d, -, rfl⟩ := Option.map_eq_some_iff.1 (given_eq_ok hgiven)
      exact absurd hplace (by simp)
  | index i =>
    obtain ⟨_, env₁, -, hgiven⟩ := Step.bind_eq_ok h
    obtain ⟨key, -, hkey⟩ := Option.bind_eq_some_iff.1 (given_eq_ok hgiven)
    exact place_of_step? hkey hplace
  | method f args => exact absurd (Prod.mk.inj h).1 (by simp)

theorem mutates_of_resolveOne {fuel : Nat} {link : Link} {step : Access} {env env' : Env}
    (h : resolveOne w fuel link env = (.ok step, env')) : step.mutates = link.mutates := by
  cases fuel with
  | zero => exact absurd (Prod.mk.inj h).1 (by simp)
  | succ fuel =>
    cases link with
    | property name =>
      obtain ⟨rfl, -⟩ := Step.pure_eq_ok h
      rfl
    | index e =>
      obtain ⟨d, env₁, -, hpure⟩ := Step.bind_eq_ok h
      obtain ⟨rfl, -⟩ := Step.pure_eq_ok hpure
      rfl
    | method f args =>
      obtain ⟨ds, env₁, -, hpure⟩ := Step.bind_eq_ok h
      obtain ⟨rfl, -⟩ := Step.pure_eq_ok hpure
      rfl

theorem mutates_of_resolveAll {fuel : Nat} {links : List Link} {steps : List Access}
    {env env' : Env} (h : resolveAll w fuel links env = (.ok steps, env')) :
    steps.any Access.mutates = links.any Link.mutates := by
  induction fuel generalizing links steps env env' with
  | zero => exact absurd (Prod.mk.inj h).1 (by simp)
  | succ fuel ih =>
    cases links with
    | nil =>
      obtain ⟨rfl, -⟩ := Step.pure_eq_ok h
      rfl
    | cons link rest =>
      obtain ⟨_, env₁, -, h₁⟩ := Step.bind_eq_ok h
      obtain ⟨step, env₂, hstep, h₂⟩ := Step.bind_eq_ok h₁
      obtain ⟨steps', env₃, hsteps, hpure⟩ := Step.bind_eq_ok h₂
      obtain ⟨rfl, -⟩ := Step.pure_eq_ok hpure
      rw [List.any_cons, List.any_cons, mutates_of_resolveOne hstep, ih hsteps]

/-- A single link that has nothing to be worked out is its access, and other links are gone through. -/
theorem resolve_cases (fuel : Nat) (links : List Link) :
    (∃ link step, links = [link] ∧ step.mutates = link.mutates ∧
      resolve w (fuel + 1) links = pure [step]) ∨
      resolve w (fuel + 1) links = resolveAll w fuel links := by
  unfold resolve
  split
  case h_1 hfuel => exact absurd hfuel (by simp)
  case h_2 name _ => exact .inl ⟨.property name, .property name, rfl, rfl, rfl⟩
  case h_3 f _ => exact .inl ⟨.method f [], .method f [], rfl, rfl, rfl⟩
  case h_4 e hfuel =>
    obtain rfl := Nat.succ.inj hfuel
    split
    · exact .inl ⟨.index e, .index _, rfl, rfl, rfl⟩
    · exact .inr rfl
  case h_5 hfuel _ _ _ =>
    obtain rfl := Nat.succ.inj hfuel
    exact .inr rfl

/-- The accesses apply the functions that the links name. -/
theorem mutates_of_resolve {fuel : Nat} {links : List Link} {steps : List Access} {env env' : Env}
    (h : resolve w fuel links env = (.ok steps, env')) :
    steps.any Access.mutates = links.any Link.mutates := by
  cases fuel with
  | zero => exact absurd (Prod.mk.inj h).1 (by simp)
  | succ fuel =>
    rcases resolve_cases (w := w) fuel links with ⟨link, step, rfl, hsame, hpure⟩ | hall
    · rw [hpure] at h
      obtain ⟨rfl, -⟩ := Step.pure_eq_ok h
      rw [List.any_cons, List.any_cons, hsame]
      rfl
    · rw [hall] at h
      exact mutates_of_resolveAll h

/-! ## 4. Runs -/

theorem spares_call (fuel : Nat) (f : Function) (args : List Datum) :
    Spares x (call w fuel f args) := by
  cases fuel with
  | zero => exact spares_failure
  | succ fuel => exact spares_tick.bind fun _ => spares_called _ _

/-- The statements of a block run one after another. -/
theorem runAll_cons_cons (fuel : Nat) (s s' : Statement) (rest : List Statement) :
    runAll w (fuel + 1) (s :: s' :: rest) = runOne w fuel s >>= fun _ => runAll w fuel (s' :: rest) := by
  funext env
  -- one step of the recursion, since the functions are too many for their equations to be made
  conv => lhs; whnf
  rcases hs : runOne w fuel s env with ⟨_ | _, env₁⟩
  · rw [Step.bind_of_error hs]
  · rw [Step.bind_of_ok hs]

/-- With that much fuel, everything that spares the name leaves its variable. -/
structure SparesAt (x : String) (w : Setting) (fuel : Nat) : Prop where
  evaluate : ∀ e : Expr, e.spares x → Spares x (evaluate w fuel e)
  datumOf : ∀ e : Expr, e.spares x → Spares x (datumOf w fuel e)
  evaluateAll : ∀ items, areSparing x items → Spares x (evaluateAll w fuel items)
  evaluateFields : ∀ fields, areFieldsSparing x fields → Spares x (evaluateFields w fuel fields)
  resolve : ∀ links, areLinksSparing x links → Spares x (resolve w fuel links)
  resolveAll : ∀ links, areLinksSparing x links → Spares x (resolveAll w fuel links)
  resolveOne : ∀ link, areLinksSparing x [link] → Spares x (resolveOne w fuel link)
  follow : ∀ (r : Reached) steps,
    (∀ keys, r.place = some (x, keys) → steps.any Access.mutates = false) →
    Spares x (follow w fuel r steps)
  runAll : ∀ body, isBlockSparing x body → Spares x (runAll w fuel body)
  evaluateOption : ∀ value, isOptionSparing x value → Spares x (evaluateOption w fuel value)
  runOne : ∀ s : Statement, s.spares x → Spares x (runOne w fuel s)

theorem sparesAt_zero : SparesAt x w 0 where
  evaluate _ _ := spares_failure
  datumOf _ _ := spares_failure
  evaluateAll _ _ := spares_failure
  evaluateFields _ _ := spares_failure
  resolve _ _ := spares_failure
  resolveAll _ _ := spares_failure
  resolveOne _ _ := spares_failure
  follow _ _ _ := spares_failure
  runAll _ _ := spares_failure
  evaluateOption _ _ := spares_failure
  runOne _ _ := spares_failure

namespace SparesAt

variable {fuel : Nat} (ih : SparesAt x w fuel)

include ih

theorem evaluate_succ (e : Expr) (h : e.spares x) : Spares x (Script.evaluate w (fuel + 1) e) :=
  spares_tick.bind fun _ => ih.datumOf e h

theorem evaluateAll_succ (items : List Expr) (h : areSparing x items) :
    Spares x (Script.evaluateAll w (fuel + 1) items) := by
  cases items with
  | nil => exact .pure []
  | cons e rest =>
    obtain ⟨he, hrest⟩ := Bool.and_eq_true_iff.1 h
    exact (ih.evaluate e he).bind fun _ => (ih.evaluateAll rest hrest).bind fun _ => .pure _

theorem evaluateFields_succ (fields : List (String × Expr)) (h : areFieldsSparing x fields) :
    Spares x (Script.evaluateFields w (fuel + 1) fields) := by
  cases fields with
  | nil => exact .pure []
  | cons e rest =>
    obtain ⟨he, hrest⟩ := Bool.and_eq_true_iff.1 h
    exact (ih.evaluate e.2 he).bind fun _ =>
      (ih.evaluateFields rest hrest).bind fun _ => .pure _

theorem evaluateOption_succ (value : Option Expr) (h : isOptionSparing x value) :
    Spares x (Script.evaluateOption w (fuel + 1) value) := by
  cases value with
  | none => exact .pure _
  | some e => exact ih.evaluate e h

theorem resolveOne_succ (link : Link) (h : areLinksSparing x [link]) :
    Spares x (Script.resolveOne w (fuel + 1) link) := by
  cases link with
  | property name => exact .pure _
  | index e => exact (ih.evaluate e (Bool.and_eq_true_iff.1 h).1).bind fun _ => .pure _
  | method f args => exact (ih.evaluateAll args (Bool.and_eq_true_iff.1 h).1).bind fun _ => .pure _

theorem resolveAll_succ (links : List Link) (h : areLinksSparing x links) :
    Spares x (Script.resolveAll w (fuel + 1) links) := by
  cases links with
  | nil => exact .pure []
  | cons link rest =>
    obtain ⟨hlink, hrest⟩ := areLinksSparing_cons.1 h
    exact spares_tick.bind fun _ => (ih.resolveOne link hlink).bind fun _ =>
      (ih.resolveAll rest hrest).bind fun _ => .pure _

theorem resolve_succ (links : List Link) (h : areLinksSparing x links) :
    Spares x (Script.resolve w (fuel + 1) links) := by
  rcases resolve_cases (w := w) fuel links with ⟨link, step, -, -, hpure⟩ | hall
  · rw [hpure]
    exact .pure _
  · rw [hall]
    exact ih.resolveAll links h

theorem follow_succ (r : Reached) (steps : List Access)
    (h : ∀ keys, r.place = some (x, keys) → steps.any Access.mutates = false) :
    Spares x (Script.follow w (fuel + 1) r steps) := by
  cases steps with
  | nil => exact .pure _
  | cons step rest =>
    have hfirst : ∀ keys, r.place = some (x, keys) → step.mutates = false ∧
        rest.any Access.mutates = false := by
      intro keys hplace
      have hboth := h keys hplace
      rwa [List.any_cons, Bool.or_eq_false_iff] at hboth
    have hpart : Spares x (followPart r step >>= fun r' => Script.follow w fuel r' rest) := by
      refine (spares_followPart r step).bind_of fun r' env env' hok => ih.follow r' rest ?_
      intro keys hplace
      obtain ⟨keys', hr⟩ := place_of_followPart hok hplace
      exact (hfirst keys' hr).2
    cases step with
    | property name => exact hpart
    | index i => exact hpart
    | method f args =>
      have hrest : ∀ d, Spares x (Script.follow w fuel ⟨d, none⟩ rest) :=
        fun d => ih.follow ⟨d, none⟩ rest fun keys hplace => absurd hplace (by simp)
      rw [Script.follow]
      split
      · exact (spares_call fuel _ args).bind hrest
      · refine spares_tick.bind fun _ => ?_
        split
        case h_1 y keys hplace =>
          have hleft : y = x → mutating.contains f = false := by
            rintro rfl
            exact (hfirst keys hplace).1
          exact (spares_nativeAt hleft args keys).bind hrest
        case h_2 => exact (spares_native f r.datum args).bind hrest

theorem runAll_succ (body : List Statement) (h : isBlockSparing x body) :
    Spares x (Script.runAll w (fuel + 1) body) := by
  cases body with
  | nil => exact .pure _
  | cons s rest =>
    obtain ⟨hs, hrest⟩ := Bool.and_eq_true_iff.1 h
    cases rest with
    | nil => exact ih.runOne s hs
    | cons s' rest =>
      rw [runAll_cons_cons]
      exact (ih.runOne s hs).bind fun _ => ih.runAll (s' :: rest) hrest

theorem enclosed (body : List Statement) (h : isBlockSparing x body) :
    Spares x (Script.enclosed (Script.runAll w fuel body)) :=
  (ih.runAll body h).enclosed

theorem chain_succ (root : Expr) (links : List Link) (h : (Expr.chain root links).spares x) :
    Spares x (Script.datumOf w (fuel + 1) (.chain root links)) := by
  obtain ⟨hparts, hplace⟩ := Bool.and_eq_true_iff.1 h
  obtain ⟨hroot, hlinks⟩ := Bool.and_eq_true_iff.1 hparts
  refine (ih.resolve links hlinks).bind_of fun steps env env' hok => ?_
  cases root with
  | «variable» y =>
    refine spares_tick.bind fun _ => (spares_look y).bind fun d => ih.follow _ steps ?_
    intro keys hstart
    obtain ⟨rfl, -⟩ := Prod.mk.inj (Option.some.inj hstart)
    rw [mutates_of_resolve hok]
    simpa [Expr.isVariable] using hplace
  | _ =>
    refine (ih.evaluate _ hroot).bind fun d => ih.follow _ steps fun keys hstart => ?_
    exact absurd hstart (by simp)

/-- A function of the script or of every script is applied to data. -/
theorem applied (f : String) (args : List Expr) (h : areSparing x args) :
    Spares x (do
      let ds ← Script.evaluateAll w fuel args
      match w.function? f args.length, ds with
      | some g, ds => Script.call w fuel g ds
      | none, d :: ds =>
        tick
        w.native f d ds
      | none, [] => failure) := by
  refine (ih.evaluateAll args h).bind fun ds => ?_
  split
  · exact spares_call fuel _ _
  · exact spares_tick.bind fun _ => spares_native f _ _
  · exact spares_failure

theorem call_succ (f : String) (args : List Expr) (h : (Expr.call f args).spares x) :
    Spares x (Script.datumOf w (fuel + 1) (.call f args)) := by
  obtain ⟨hargs, hfirst⟩ := Bool.and_eq_true_iff.1 h
  cases args with
  | nil => exact ih.applied f [] hargs
  | cons e rest =>
    cases e with
    | «variable» y =>
      refine spares_tick.bind fun _ => ?_
      refine (ih.evaluateAll rest (Bool.and_eq_true_iff.1 hargs).2).bind fun ds => ?_
      refine (spares_look y).bind fun d => ?_
      split
      · exact spares_call fuel _ _
      · refine spares_tick.bind fun _ => spares_nativeOn ?_ d ds
        rintro rfl
        simpa [Expr.isVariable] using hfirst
    | _ => exact ih.applied f _ hargs

theorem datumOf_succ (e : Expr) (h : e.spares x) : Spares x (Script.datumOf w (fuel + 1) e) := by
  cases e with
  | literal d => exact .pure d
  | «variable» y => exact spares_look y
  | list items => exact (ih.evaluateAll items h).bind fun _ => .pure _
  | map fields => exact (ih.evaluateFields fields h).bind fun _ => .pure _
  | chain root links => exact ih.chain_succ root links h
  | call f args => exact ih.call_succ f args h
  | negative e => exact (ih.evaluate e h).bind fun _ => spares_tick.bind fun _ => spares_given _
  | positive e => exact (ih.evaluate e h).bind fun _ => spares_tick.bind fun _ => spares_given _
  | invert e => exact (ih.evaluate e h).bind fun d => (spares_truth d).bind fun _ => .pure _
  | binary op a b =>
    obtain ⟨ha, hb⟩ := Bool.and_eq_true_iff.1 h
    exact (ih.evaluate a ha).bind fun d => (ih.evaluate b hb).bind fun e => spares_operated op d e
  | both a b =>
    obtain ⟨ha, hb⟩ := Bool.and_eq_true_iff.1 h
    refine (ih.evaluate a ha).bind fun d => (spares_truth d).bind fun _ => .ite ?_ (.pure _)
    exact (ih.evaluate b hb).bind fun e => (spares_truth e).bind fun _ => .pure _
  | either a b =>
    obtain ⟨ha, hb⟩ := Bool.and_eq_true_iff.1 h
    refine (ih.evaluate a ha).bind fun d => (spares_truth d).bind fun _ => .ite (.pure _) ?_
    exact (ih.evaluate b hb).bind fun e => (spares_truth e).bind fun _ => .pure _
  | block body => exact ih.enclosed body h

theorem assign_succ (y : String) (links : List Link) (op : Option Operator) (value : Expr)
    (h : (Statement.assign y links op value).spares x) :
    Spares x (Script.runOne w (fuel + 1) (.assign y links op value)) := by
  obtain ⟨hplace, hvalue⟩ := Bool.and_eq_true_iff.1 h
  obtain ⟨hy, hlinks⟩ := Bool.and_eq_true_iff.1 hplace
  have hassign : ∀ d keys, Spares x (assignAt y keys op d) :=
    fun d keys => spares_assignAt (bne_iff_ne.1 hy) keys op d
  refine spares_tick.bind fun _ => ?_
  cases links with
  | nil => exact (ih.evaluate value hvalue).bind fun d => spares_tick.bind fun _ => hassign d []
  | cons link rest =>
    exact (ih.evaluate value hvalue).bind fun d =>
      (ih.resolve (link :: rest) hlinks).bind fun steps => spares_tick.bind fun _ =>
        (spares_keysOf steps).bind (hassign d)

theorem repeatWhile_succ (condition : Expr) (body : List Statement)
    (h : (Statement.repeatWhile condition body).spares x) :
    Spares x (Script.runOne w (fuel + 1) (.repeatWhile condition body)) := by
  obtain ⟨hcondition, hbody⟩ := Bool.and_eq_true_iff.1 h
  have hturn := (ih.enclosed body hbody).bind fun _ => .pure ()
  have hloop := spares_whileHolds ((ih.evaluate condition hcondition).bind spares_truth) hturn fuel
  refine spares_tick.bind fun _ => ?_
  cases condition with
  | literal d =>
    cases d with
    | unit =>
      exact spares_whileHolds (.pure true) (.ite (spares_tick.bind fun _ => hturn) hturn) fuel
    | _ => exact hloop
  | _ => exact hloop

theorem repeatFor_succ (y : String) (counter : Option String) (sequence : Expr)
    (body : List Statement) (h : (Statement.repeatFor y counter sequence body).spares x) :
    Spares x (Script.runOne w (fuel + 1) (.repeatFor y counter sequence body)) := by
  obtain ⟨hfirst, hbody⟩ := Bool.and_eq_true_iff.1 h
  obtain ⟨hnames, hsequence⟩ := Bool.and_eq_true_iff.1 hfirst
  obtain ⟨hy, hcounter⟩ := Bool.and_eq_true_iff.1 hnames
  refine spares_tick.bind fun _ => (ih.evaluate sequence hsequence).bind fun _ => ?_
  refine (spares_given _).bind fun _ => ?_
  refine spares_overSequence (fun d i => spares_tick.bind fun _ => ?_) fuel 0 _
  have hturn : Spares x (Script.bind false y d >>= fun _ => Script.runAll w fuel body) :=
    (spares_bind (bne_iff_ne.1 hy) false d).bind fun _ => ih.runAll body hbody
  refine (Spares.enclosed ?_).bind fun _ => .pure ()
  cases counter with
  | none => exact hturn
  | some c =>
    have hc : c ≠ x := fun heq => bne_iff_ne.1 hcounter (congrArg some heq)
    exact (spares_bind hc false _).bind fun _ => hturn

theorem runOne_succ (s : Statement) (h : s.spares x) :
    Spares x (Script.runOne w (fuel + 1) s) := by
  cases s with
  | expression e =>
    exact spares_tick.bind fun _ => .ite (ih.datumOf e h) (ih.evaluate e h)
  | define constant y value =>
    obtain ⟨hy, hvalue⟩ := Bool.and_eq_true_iff.1 h
    exact spares_tick.bind fun _ => (ih.evaluate value hvalue).bind fun d =>
      (spares_bind (bne_iff_ne.1 hy) constant d).bind fun _ => .pure _
  | assign y links op value => exact ih.assign_succ y links op value h
  | choice condition yes no =>
    obtain ⟨hfirst, hno⟩ := Bool.and_eq_true_iff.1 h
    obtain ⟨hcondition, hyes⟩ := Bool.and_eq_true_iff.1 hfirst
    exact spares_tick.bind fun _ => (ih.evaluate condition hcondition).bind fun d =>
      (spares_truth d).bind fun _ => .ite (ih.enclosed yes hyes) (ih.enclosed no hno)
  | repeatWhile condition body => exact ih.repeatWhile_succ condition body h
  | repeatFor y counter sequence body => exact ih.repeatFor_succ y counter sequence body h
  | block body => exact spares_tick.bind fun _ => ih.enclosed body h
  | giveBack value =>
    exact spares_tick.bind fun _ => (ih.evaluateOption value h).bind fun _ => .fail _
  | raise value => exact spares_tick.bind fun _ => spares_failure
  | leave value =>
    exact spares_tick.bind fun _ => (ih.evaluateOption value h).bind fun _ => .fail _
  | next => exact spares_tick.bind fun _ => .fail _
  | nothing => exact spares_tick.bind fun _ => .pure _

theorem succ : SparesAt x w (fuel + 1) where
  evaluate := ih.evaluate_succ
  datumOf := ih.datumOf_succ
  evaluateAll := ih.evaluateAll_succ
  evaluateFields := ih.evaluateFields_succ
  resolve := ih.resolve_succ
  resolveAll := ih.resolveAll_succ
  resolveOne := ih.resolveOne_succ
  follow := ih.follow_succ
  runAll := ih.runAll_succ
  evaluateOption := ih.evaluateOption_succ
  runOne := ih.runOne_succ

end SparesAt

theorem sparesAt (x : String) (w : Setting) (fuel : Nat) : SparesAt x w fuel := by
  induction fuel with
  | zero => exact sparesAt_zero
  | succ fuel ih => exact ih.succ

/-- A block that never writes a variable leaves it, however the run of the block ends. -/
theorem find?_runAll {fuel : Nat} {body : List Statement} {env : Env}
    (h : isBlockSparing x body) (hregular : RegularAt x env.bindings) :
    find? x (runAll w fuel body env).2.bindings = find? x env.bindings :=
  ((sparesAt x w fuel).runAll body h env hregular).find?_eq

/-! ## 5. Whole scripts -/

/-- A script that is done has run to an end of its statements. -/
theorem run_eq_some {fileExists : String → Bool} {input : ScriptInput} {text : String}
    {result : ScriptResult} (h : run fileExists input text = some result) :
    ∃ p, prepared? text = some p ∧ result =
      (runAll ⟨p.functions, fileExists⟩ fullFuel p.statements ⟨initial input, 0, 0⟩).2.result := by
  unfold run at h
  cases hp : prepared? text with
  | none =>
    rw [hp] at h
    exact absurd h (by simp)
  | some p =>
    rw [hp] at h
    refine ⟨p, rfl, ?_⟩
    dsimp only at h
    generalize runAll ⟨p.functions, fileExists⟩ fullFuel p.statements ⟨initial input, 0, 0⟩ = out
      at h ⊢
    rcases out with ⟨s | d, env⟩
    · cases s with
      | returned d => exact (Option.some.inj h).symm
      | _ => exact absurd h (by simp)
    · exact (Option.some.inj h).symm

/-- **A script that never writes `data` gives back the data that it was given**, whatever else it does,
as far as a script can hold it. -/
theorem run_data_of_sparing {fileExists : String → Bool} {input : ScriptInput} {text : String}
    {result : ScriptResult} (h : run fileExists input text = some result)
    (hsparing : ∀ p, prepared? text = some p → isBlockSparing "data" p.statements)
    (hcarried : input.data.Carried) (hregular : (Datum.ofValue input.data).Regular) :
    result.data = .value input.data := by
  obtain ⟨p, hp, rfl⟩ := run_eq_some h
  have hfirst : find? "data" (initial input) = some ⟨"data", false, .ofValue input.data⟩ := rfl
  have hlast : find? "data" (runAll ⟨p.functions, fileExists⟩ fullFuel p.statements
      ⟨initial input, 0, 0⟩).2.bindings = find? "data" (initial input) := by
    refine find?_runAll (hsparing p hp) fun v hv => ?_
    rw [hfirst] at hv
    exact Option.some.inj hv ▸ hregular
  unfold Env.result Env.leftover
  dsimp only
  rw [hlast, hfirst]
  dsimp only
  rw [Datum.toValue?_ofValue hcarried]
  rfl

end Stencil.Script
