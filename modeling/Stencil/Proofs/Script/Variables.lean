import Stencil.Proofs.Script.Data
import Stencil.Proofs.Step
import Stencil.Script.Place

/-!
# What a part of a script leaves of a variable

A running script has its variables in a row, the newest first. A part of it puts variables in front,
changes the data of others, and takes away what a block has put in front. If it spares a name, then
what can be seen under that name stays (`Leaves`): the new variables have other names, and the row
behind them shows the variables of that name as they were.

`Spares x m` says so of one step, however it ends. It is said of rows in which the variable is regular,
since a function that is applied in the place of a part puts that part back (`Datum.changeAt_eq_self`).
The steps of `Env` and `Place` are gone through here one by one; where they write, it is to a variable
that they name.
-/

set_option autoImplicit false

namespace Stencil.Script

variable {x : String} {α β : Type}

/-! ## 1. Rows of variables -/

/-- What there is under a name, place by place. -/
def seen (x : String) (vs : List Variable) : List (Option Variable) :=
  vs.map fun v => if v.name = x then some v else none

theorem seen_cons (v : Variable) (vs : List Variable) :
    seen x (v :: vs) = (if v.name = x then some v else none) :: seen x vs := rfl

/-- The second row is the first one behind others, as far as can be seen under a name. -/
def Leaves (x : String) (vs vs' : List Variable) : Prop :=
  ∃ n, seen x vs' = List.replicate n none ++ seen x vs

theorem find?_eq_findSome?_seen (vs : List Variable) :
    find? x vs = (seen x vs).findSome? id := by
  unfold find? seen
  induction vs with
  | nil => rfl
  | cons v rest ih =>
    rw [List.find?_cons, List.map_cons, List.findSome?_cons, ih]
    by_cases hname : v.name = x
    · rw [if_pos hname, beq_iff_eq.2 hname]
      rfl
    · rw [if_neg hname, beq_eq_false_iff_ne.2 hname]
      rfl

namespace Leaves

theorem of_seen_eq {vs vs' : List Variable} (h : seen x vs' = seen x vs) : Leaves x vs vs' :=
  ⟨0, h⟩

theorem refl (vs : List Variable) : Leaves x vs vs :=
  of_seen_eq rfl

theorem trans {vs vs' vs'' : List Variable} (h : Leaves x vs vs') (h' : Leaves x vs' vs'') :
    Leaves x vs vs'' := by
  obtain ⟨n, hn⟩ := h
  obtain ⟨n', hn'⟩ := h'
  exact ⟨n' + n, by rw [hn', hn, ← List.append_assoc, List.replicate_append_replicate]⟩

theorem cons {v : Variable} (hname : v.name ≠ x) (vs : List Variable) : Leaves x vs (v :: vs) :=
  ⟨1, by rw [seen_cons, if_neg hname]; rfl⟩

/-- Without what is in front, everything that can be seen is as it was. -/
theorem drop {vs vs' : List Variable} (h : Leaves x vs vs') :
    Leaves x vs (vs'.drop (vs'.length - vs.length)) := by
  obtain ⟨n, hn⟩ := h
  have hlength : vs'.length = n + vs.length := by
    have hlengths := congrArg List.length hn
    rwa [List.length_append, List.length_replicate, seen, List.length_map, seen,
      List.length_map] at hlengths
  refine of_seen_eq ?_
  rw [hlength, Nat.add_sub_cancel, seen, List.map_drop, ← seen, hn]
  exact List.drop_left' List.length_replicate

theorem find?_eq {vs vs' : List Variable} (h : Leaves x vs vs') : find? x vs' = find? x vs := by
  obtain ⟨n, hn⟩ := h
  rw [find?_eq_findSome?_seen, find?_eq_findSome?_seen, hn, List.findSome?_append]
  have hfront : (List.replicate n (none : Option Variable)).findSome? id = none :=
    List.findSome?_eq_none_iff.2 fun o ho => List.eq_of_mem_replicate ho
  rw [hfront, Option.none_or]

end Leaves

/-! ## 2. Steps that spare a variable -/

/-- The variable of a name, if there is one, is regular. -/
def RegularAt (x : String) (vs : List Variable) : Prop :=
  ∀ v, find? x vs = some v → v.datum.Regular

/-- However the step ends, it leaves a regular variable of the name. -/
def Spares (x : String) (m : Eval α) : Prop :=
  Step.Leads (fun env env' => RegularAt x env.bindings → Leaves x env.bindings env'.bindings) m

theorem RegularAt.leaves {vs vs' : List Variable} (h : RegularAt x vs) (hleaves : Leaves x vs vs') :
    RegularAt x vs' := by
  intro v hv
  rw [hleaves.find?_eq] at hv
  exact h v hv

namespace Spares

theorem of_keeps {m : Eval α} (h : Step.Keeps Env.bindings m) : Spares x m := by
  intro env _
  rw [h env]
  exact Leaves.refl _

/-- One step after another, the second one with what the first one can give it. -/
theorem bind_of {m : Eval α} {f : α → Eval β} (hm : Spares x m)
    (hf : ∀ a env env', m env = (.ok a, env') → Spares x (f a)) : Spares x (m >>= f) := by
  intro env henv
  exact Step.after_bind (P := fun env' => Leaves x env.bindings env'.bindings) (hm env henv)
    fun a env₁ hok h₁ => h₁.trans (hf a env env₁ hok env₁ (henv.leaves h₁))

theorem bind {m : Eval α} {f : α → Eval β} (hm : Spares x m) (hf : ∀ a, Spares x (f a)) :
    Spares x (m >>= f) :=
  hm.bind_of fun a _ _ _ => hf a

theorem pure (a : α) : Spares x (Pure.pure a : Eval α) :=
  of_keeps (Step.keeps_pure a)

theorem fail (s : Signal) : Spares x (Step.fail s : Eval α) :=
  of_keeps (Step.keeps_fail s)

theorem ite {c : Prop} [Decidable c] {m n : Eval α} (hm : Spares x m) (hn : Spares x n) :
    Spares x (if c then m else n) := by
  split
  · exact hm
  · exact hn

end Spares

/-! ## 3. The steps on variables -/

theorem spares_failure : Spares x (failure : Eval α) :=
  .fail .failed

theorem spares_given (o : Option α) : Spares x (given o) :=
  .of_keeps fun _ => rfl

theorem spares_tick : Spares x tick :=
  .of_keeps fun env => by rw [tick, Step.snd_attempt]

theorem spares_look (name : String) : Spares x (look name) :=
  .of_keeps fun _ => rfl

theorem spares_bind {name : String} (h : name ≠ x) (constant : Bool) (d : Datum) :
    Spares x (Script.bind constant name d) :=
  fun env _ => Leaves.cons h env.bindings

/-- A change is to a variable with another name, or leaves the datum. -/
def Harmless (x name : String) (f : Variable → Option (Datum × α)) : Prop :=
  name = x → ∀ v r, v.datum.Regular → f v = some r → r.1 = v.datum

theorem seen_changeIn {name : String} {f : Variable → Option (Datum × α)} (hf : Harmless x name f)
    {vs vs' : List Variable} {a : α} (hregular : name = x → RegularAt x vs)
    (h : changeIn name f vs = some (vs', a)) : seen x vs' = seen x vs := by
  induction vs generalizing vs' with
  | nil => exact absurd h (by simp [changeIn])
  | cons v rest ih =>
    rw [changeIn] at h
    by_cases hname : v.name = name
    · rw [if_pos (beq_iff_eq.2 hname)] at h
      obtain ⟨r, hr, hpair⟩ := Option.map_eq_some_iff.1 h
      rw [← (Prod.mk.inj hpair).1, seen_cons, seen_cons]
      by_cases hx : name = x
      · have hfound : find? x (v :: rest) = some v :=
          List.find?_cons_of_pos (beq_iff_eq.2 (hname.trans hx))
        rw [hf hx v r (hregular hx v hfound) hr]
      · have hother : v.name ≠ x := fun heq => hx (hname.symm.trans heq)
        rw [if_neg hother, if_neg hother]
    · rw [if_neg (by simpa using hname)] at h
      obtain ⟨⟨rest', b⟩, hr, hpair⟩ := Option.map_eq_some_iff.1 h
      obtain ⟨rfl, rfl⟩ := Prod.mk.inj hpair
      rw [seen_cons, seen_cons]
      refine congrArg _ (ih (fun hx w hw => ?_) hr)
      refine hregular hx w ?_
      rw [find?, List.find?_cons_of_neg (by simpa [← hx] using hname)]
      exact hw

theorem spares_change {name : String} {f : Variable → Option (Datum × α)}
    (hf : Harmless x name f) : Spares x (change name f) := by
  intro env henv
  unfold change
  cases hchange : changeIn name f env.bindings with
  | none => exact Leaves.refl _
  | some r => exact .of_seen_eq (seen_changeIn hf (fun _ => henv) hchange)

theorem Spares.enclosed {m : Eval α} (hm : Spares x m) : Spares x (enclosed m) :=
  fun env henv => (hm env henv).drop

theorem spares_called (parameters : List Variable) (m : Eval Datum) :
    Spares x (called parameters m) := by
  refine .of_keeps fun env => ?_
  unfold called
  split
  · dsimp only
    split <;> rfl
  · rfl

/-! ## 4. Loops -/

theorem spares_overSequence {turn : Datum → Nat → Eval Unit} (h : ∀ d n, Spares x (turn d n))
    (fuel count : Nat) (sequence : Datum) : Spares x (overSequence turn fuel count sequence) := by
  induction fuel generalizing count sequence with
  | zero => exact spares_failure
  | succ fuel ih =>
    intro env henv
    rw [overSequence]
    cases sequence.uncons? with
    | none => exact Leaves.refl _
    | some parts =>
      obtain ⟨d, rest⟩ := parts
      have hturn := h d count env henv
      dsimp only
      generalize turn d count env = out at hturn ⊢
      -- the turn ends well or ends early; in both cases it has left the variable
      rcases out with ⟨s | _, env₁⟩
      · cases s with
        | next => exact hturn.trans (ih (count + 1) rest env₁ (henv.leaves hturn))
        | _ => exact hturn
      · exact hturn.trans (ih (count + 1) rest env₁ (henv.leaves hturn))

theorem spares_whileHolds {condition : Eval Bool} {turn : Eval Unit}
    (hcondition : Spares x condition) (hturn : Spares x turn) (fuel : Nat) :
    Spares x (whileHolds condition turn fuel) := by
  induction fuel with
  | zero => exact spares_failure
  | succ fuel ih =>
    intro env henv
    have htest := hcondition env henv
    rw [whileHolds]
    dsimp only
    generalize condition env = out at htest ⊢
    rcases out with ⟨_ | holds, env₁⟩
    · exact htest
    · cases holds with
      | false => exact htest
      | true =>
        have hboth := htest.trans (hturn env₁ (henv.leaves htest))
        dsimp only
        generalize turn env₁ = out at hboth ⊢
        rcases out with ⟨s | _, env₂⟩
        · cases s with
          | next => exact hboth.trans (ih env₂ (henv.leaves hboth))
          | _ => exact hboth
        · exact hboth.trans (ih env₂ (henv.leaves hboth))

end Stencil.Script
