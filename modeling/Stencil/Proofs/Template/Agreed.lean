import Stencil.Proofs.Prompt.Heard
import Stencil.Proofs.Template.Installed
import Stencil.Proofs.Template.Namespace

/-!
# Templates that were agreed to

A template that is not where it is asked for is looked for in the other namespaces. Those that hold a
directory of its name are a list in the order of their names (`exists_spaces`), and their templates are
offered one after another: a line is shown, and one question is asked. A template is taken when its own
question is agreed to, and that ends the search; so do a question without an answer and the end of the
list (`consulted_offer`).

What stands where the template is asked for is taken unseen, and it need not be a directory
(`file_is_taken_for_template`).
-/

set_option autoImplicit false

namespace Stencil

open FileTree (Proper admissible)

/-! ## 1. Where else there is a template of a name -/

/-- A namespace other than that of the template holds a directory of its name. -/
structure Elsewhere (settings : Settings) (files : FileTree) (wanted : ActiveTemplate) (space : String) :
    Prop where
  other : space ≠ wanted.space
  found : ∃ root, files.locate settings.templatesDir = .ok root ∧ files.at? (root ++ [space]) = some .dir
  there : files.isDir (settings.templateDir space wanted.name) = true

section

variable {settings : Settings} {files : FileTree} {root : Location} {wanted : ActiveTemplate}
  {space name : String}

theorem exists_of_isDir {t : FileTree} {p : Path} (h : t.isDir p = true) : t.exists p = true := by
  obtain ⟨loc, hlocate, hat⟩ := FileTree.isDir_iff.1 h
  exact FileTree.exists_iff.2 ⟨loc, hlocate, by rw [hat]; rfl⟩

theorem Settings.templateDir_of_isAbsolute (settings : Settings) (space : String)
    (h : Path.isAbsolute ⟨name⟩ = true) : settings.templateDir space name = ⟨name⟩ :=
  if_pos h

theorem Rooted.proper_space (h : Rooted settings files root)
    (hin : (files.at? (root ++ [space])).isSome) : Proper space :=
  h.proper hin space (List.mem_singleton_self space)

/-- What a namespace holds is reached through its directory. -/
theorem Rooted.isDir_space (h : Rooted settings files root)
    (hspace : files.at? (root ++ [space]) = some .dir) (hname : Path.isAbsolute ⟨name⟩ = false)
    (hthere : files.isDir (settings.templateDir space name) = true) :
    files.isDir (settings.templatesDir.joinText space) = true := by
  have hproper : Proper space := h.proper_space (by rw [hspace]; rfl)
  obtain ⟨loc, hlocate, -⟩ := FileTree.isDir_iff.1 hthere
  have hadmissible : admissible (settings.templateDir space name) := (FileTree.locate_eq_ok.1 hlocate).1
  exact (FileTree.isDir_joinText h.locate h.dir hproper).2
    ⟨FileTree.admissible_of_joinText hname hadmissible, hspace⟩

/-- The search goes through the names in the templates directory. -/
theorem Rooted.spacesWith_eq (h : Rooted settings files root) (name : String) :
    spacesWith settings files name =
      ((files.namesIn root).filter fun space => files.isDir (settings.templatesDir.joinText space) &&
        files.isDir (settings.templateDir space name)).map (.of settings · name) := by
  have hlist : files.list? settings.templatesDir =
      some ((files.namesIn root).map settings.templatesDir.joinText) := by
    rw [FileTree.list?, h.locate]
    exact if_pos (FileTree.isDirAt_iff.2 h.dir)
  rw [spacesWith, hlist, Option.getD_some, List.filter_map, List.filterMap_map, ← List.filterMap_eq_map]
  refine List.filterMap_congr fun space hspace => ?_
  have hproper : Proper space :=
    h.proper_space (FileTree.mem_namesIn.1 (List.mem_filter.1 hspace).1)
  have hfile : (settings.templatesDir.joinText space).fileName? = some space :=
    Path.fileName?_joinText hproper.not_idle hproper.ne_up hproper.no_slash
  simp only [Function.comp_apply, hfile, Option.map_some]

/-- Where a template is missing, its name is looked for in every other namespace. -/
theorem Rooted.elsewhere_iff (h : Rooted settings files root)
    (hwanted : wanted.dir = settings.templateDir wanted.space wanted.name)
    (hmissing : files.exists wanted.dir = false) :
    Elsewhere settings files wanted space ↔
      ((files.at? (root ++ [space])).isSome ∧ files.isDir (settings.templatesDir.joinText space) ∧
        files.isDir (settings.templateDir space wanted.name)) ∧ space ≠ wanted.space := by
  constructor
  · rintro ⟨hother, ⟨root', hlocate, hat⟩, hthere⟩
    obtain rfl : root = root' := Except.ok.inj (h.locate.symm.trans hlocate)
    refine ⟨⟨by rw [hat]; rfl, h.isDir_space hat ?_ hthere, hthere⟩, hother⟩
    -- a path from the root would be where the template is asked for
    refine Bool.eq_false_iff.2 fun habsolute => ?_
    rw [settings.templateDir_of_isAbsolute _ habsolute] at hthere
    rw [hwanted, settings.templateDir_of_isAbsolute _ habsolute, exists_of_isDir hthere] at hmissing
    exact absurd hmissing (by simp)
  · rintro ⟨⟨hin, hspace, hthere⟩, hother⟩
    have hat := ((FileTree.isDir_joinText h.locate h.dir (h.proper_space hin)).1 hspace).2
    exact ⟨hother, ⟨root, h.locate, hat⟩, hthere⟩

theorem spacesWith_of_not_dir
    (h : ¬ ∃ root, files.locate settings.templatesDir = .ok root ∧ files.at? root = some .dir)
    (name : String) : spacesWith settings files name = [] := by
  have hlist : files.list? settings.templatesDir = none := by
    unfold FileTree.list?
    split
    · rename_i root hlocate
      exact if_neg fun hdir => h ⟨root, hlocate, FileTree.isDirAt_iff.1 hdir⟩
    · rfl
  rw [spacesWith, hlist]
  rfl

/-- The namespaces that hold a directory of a name are come upon in the order of the bytes of their
names. -/
theorem exists_spaces (hw : files.WellFormed)
    (hwanted : wanted.dir = settings.templateDir wanted.space wanted.name)
    (hmissing : files.exists wanted.dir = false) :
    ∃ spaces : List String, (spaces.map Text.bytes).Pairwise (· < ·) ∧
      (∀ space, space ∈ spaces ↔ Elsewhere settings files wanted space) ∧
      (spacesWith settings files wanted.name).filter (·.space != wanted.space) =
        spaces.map (.of settings · wanted.name) := by
  by_cases hroot : ∃ root, files.locate settings.templatesDir = .ok root ∧ files.at? root = some .dir
  · obtain ⟨root, hlocate, hdir⟩ := hroot
    have h : Rooted settings files root := ⟨hw, hlocate, hdir⟩
    refine ⟨_, ?_, fun space => ?_, by rw [h.spacesWith_eq, List.filter_map]⟩
    · rw [List.pairwise_map]
      exact (((hw.pairwise_namesIn root).filter _).filter _).imp Text.bytes_lt_bytes
    · rw [h.elsewhere_iff hwanted hmissing, List.mem_filter, List.mem_filter, FileTree.mem_namesIn,
        Bool.and_eq_true, Function.comp_apply, ActiveTemplate.of, bne_iff_ne]
  · refine ⟨[], List.Pairwise.nil, fun space => ?_, by rw [spacesWith_of_not_dir hroot]; rfl⟩
    refine ⟨fun hmem => absurd hmem List.not_mem_nil, fun hin => ?_⟩
    obtain ⟨root, hlocate, hat⟩ := hin.found
    have hdir := hw.dir_above (List.cons_ne_nil space []) (by rw [hat]; rfl)
    exact absurd ⟨root, hlocate, hdir⟩ hroot

end

/-! ## 2. Offers -/

/-- The question behind every offer. -/
def agreement : Question :=
  .confirm "Are you sure you want to use this template?" false

/-- The line by which a template is offered. -/
def ActiveTemplate.offerLine (t : ActiveTemplate) : Message :=
  ⟨.success, s!"Found template at: {t.dir.text}"⟩

/-- A world after offers, with the answers that are left. -/
def World.afterOffers (w : World) (made : List ActiveTemplate) (left : Answers) : World :=
  { w with
    shown := w.shown ++ made.map ActiveTemplate.offerLine
    asked := w.asked ++ List.replicate made.length agreement
    answers := left }

/-- What ends a row of offers, with the templates that are left, those of them that are still offered,
and the answers that are left behind. -/
inductive OffersEnd (operator : Operator) (wanted : ActiveTemplate) (x : Exchange) :
    (rest made : List ActiveTemplate) → Except Fault ActiveTemplate → Answers → Prop
  /-- No template is left. -/
  | exhausted : OffersEnd operator wanted x [] [] (.error (.templateNotFound wanted.id)) x.2
  /-- The operator agrees to the next one. -/
  | agreed {t : ActiveTemplate} {rest : List ActiveTemplate} {v : Value} {left : Answers}
      (hsaid : operator x.1 x.2 agreement = (.ok v, left)) (hyes : v.isTruthy = true) :
      OffersEnd operator wanted x (t :: rest) [t] (.ok t) left
  /-- The question for the next one has no answer. -/
  | unanswered {t : ActiveTemplate} {rest : List ActiveTemplate} {e : Fault} {left : Answers}
      (hsaid : operator x.1 x.2 agreement = (.error e, left)) :
      OffersEnd operator wanted x (t :: rest) [t] (.error e) left

/-- Templates are offered one after another: some are declined, each by an answer of its own, and then
the row ends. -/
def Consulted (operator : Operator) (wanted : ActiveTemplate) (offers : List ActiveTemplate) (w : World)
    (result : Except Fault ActiveTemplate) (w' : World) : Prop :=
  ∃ (declined rest last : List ActiveTemplate) (said : List Value) (x : Exchange) (left : Answers),
    offers = declined ++ rest ∧ said.length = declined.length ∧ (∀ v ∈ said, v.isTruthy = false) ∧
      Heard operator w.exchange (said.map (agreement, ·)) x ∧
      OffersEnd operator wanted x rest last result left ∧ w' = w.afterOffers (declined ++ last) left

section

variable {operator : Operator} {wanted t : ActiveTemplate} {rest : List ActiveTemplate} {w : World}
  {left : Answers}

theorem ask_offer {result : Except Fault Value} (h : operator w.asked w.answers agreement = (result, left)) :
    World.ask operator agreement { w with shown := w.shown ++ [t.offerLine] } =
      (result, w.afterOffers [t] left) := by
  simp only [World.ask, h]
  rfl

/-- An offer that is answered. -/
theorem offer_of_answer {v : Value} (h : operator w.asked w.answers agreement = (.ok v, left)) :
    offer operator wanted (t :: rest) w =
      if v.isTruthy then (.ok t, w.afterOffers [t] left)
      else offer operator wanted rest (w.afterOffers [t] left) := by
  have hconfirm : World.confirm operator "Are you sure you want to use this template?" false
      { w with shown := w.shown ++ [t.offerLine] } = (.ok v.isTruthy, w.afterOffers [t] left) :=
    (Step.bind_of_ok (ask_offer h)).trans rfl
  refine (Step.bind_of_ok (show World.tell _ _ w = (.ok (), _) from rfl)).trans ?_
  refine (Step.bind_of_ok hconfirm).trans ?_
  split
  · rfl
  · rfl

/-- An offer that is not answered. -/
theorem offer_of_error {e : Fault} (h : operator w.asked w.answers agreement = (.error e, left)) :
    offer operator wanted (t :: rest) w = (.error e, w.afterOffers [t] left) := by
  have hconfirm : World.confirm operator "Are you sure you want to use this template?" false
      { w with shown := w.shown ++ [t.offerLine] } = (.error e, w.afterOffers [t] left) :=
    Step.bind_of_error (ask_offer h)
  refine (Step.bind_of_ok (show World.tell _ _ w = (.ok (), _) from rfl)).trans ?_
  exact Step.bind_of_error hconfirm

theorem World.afterOffers_append (w : World) (made more : List ActiveTemplate) (before left : Answers) :
    (w.afterOffers made before).afterOffers more left = w.afterOffers (made ++ more) left := by
  simp [afterOffers, List.append_assoc, List.replicate_append_replicate]

/-- Offers end as they are answered. -/
theorem consulted_offer (operator : Operator) (wanted : ActiveTemplate) (offers : List ActiveTemplate)
    (w : World) :
    Consulted operator wanted offers w (offer operator wanted offers w).1
      (offer operator wanted offers w).2 := by
  induction offers generalizing w with
  | nil =>
    refine ⟨[], [], [], [], w.exchange, w.answers, rfl, rfl, by simp, .nil _, .exhausted, ?_⟩
    simp [World.afterOffers, offer, Step.fail]
  | cons t rest ih =>
    rcases hsaid : operator w.asked w.answers agreement with ⟨e | v, left⟩
    · rw [offer_of_error hsaid]
      exact ⟨[], t :: rest, [t], [], w.exchange, left, rfl, rfl, by simp, .nil _,
        .unanswered hsaid, rfl⟩
    · rw [offer_of_answer hsaid]
      cases hyes : v.isTruthy with
      | true =>
        exact ⟨[], t :: rest, [t], [], w.exchange, left, rfl, rfl, by simp, .nil _,
          .agreed hsaid hyes, rfl⟩
      | false =>
        -- what is declined here stands in front of what the offers that follow decline
        obtain ⟨declined, later, last, said, x, left', hsplit, hlength, hno, hheard, hend, hworld⟩ :=
          ih (w.afterOffers [t] left)
        refine ⟨t :: declined, later, last, v :: said, x, left', by rw [hsplit]; rfl,
          congrArg Nat.succ hlength, List.forall_mem_cons.2 ⟨hyes, hno⟩, .cons hsaid hheard, hend, ?_⟩
        exact hworld.trans (w.afterOffers_append [t] (declined ++ last) left left')

end

/-! ## 3. Looking for a template -/

/-- The run with a namespace in its session. -/
def Run.settled (r : Run) (space : String) : Run :=
  { r with session := { r.session with space := some (r.session.space.getD space) } }

/-- The world once the operator was told that a template is not where it is asked for. -/
def World.afterMissing (w : World) (wanted : ActiveTemplate) : World :=
  { w with
    shown := w.shown ++ [⟨.warning, s!"Unable to find template at: {wanted.dir.text}"⟩,
      ⟨.warning, "Attempting to locate template from another location..."⟩] }

section

variable {services : Services} {ref : TemplateRef}

theorem searchElsewhere_eq (services : Services) (wanted : ActiveTemplate) (w : World) :
    searchElsewhere services wanted w =
      offer services.operator wanted
        ((spacesWith services.settings w.files wanted.name).filter (·.space != wanted.space))
        (w.afterMissing wanted) := by
  unfold searchElsewhere
  refine (Step.bind_of_ok (show World.tell _ _ w = (.ok (), _) from rfl)).trans ?_
  refine (Step.bind_of_ok (show World.tell _ _ _ = (.ok (), _) from rfl)).trans ?_
  refine (Step.bind_of_ok (show Step.asks World.files _ = (.ok _, _) from rfl)).trans ?_
  rw [World.afterMissing, List.append_cons]

/-- A template that is not where it is asked for is looked for elsewhere. -/
theorem locate_of_missing {r : Run}
    (h : r.world.files.exists (services.settings.templateDir (spaceOf r.session ref) ref.name) = false) :
    locate services ref r =
      Job.outside (searchElsewhere services (.of services.settings (spaceOf r.session ref) ref.name))
        (r.settled (spaceOf r.session ref)) := by
  unfold locate
  rw [Step.bind_of_ok (show Job.consult _ r = (.ok (spaceOf r.session ref), r) from rfl),
    Step.bind_of_ok (show Job.change _ r = (.ok (), _) from rfl)]
  refine (Step.bind_of_ok (m := Job.outside (World.exists _)) (a := false) ?_).trans rfl
  exact Prod.ext (congrArg Except.ok h) rfl

end

/-- **A template is used when it was asked for or agreed to.** What stands where a reference asks for it
is taken, and nothing is shown or asked. Otherwise the directories of its name in other namespaces are
offered, in the order of the names of these: each offer is a line and one question, and a template is
taken only when its own question is agreed to, those before it being declined. When all are declined, or
there are none, the template that was asked for is not found. -/
theorem used_when_agreed (services : Services) (ref : TemplateRef) {r : Run}
    (hw : r.world.files.WellFormed) (wanted : ActiveTemplate)
    (hwanted : wanted = .of services.settings (spaceOf r.session ref) ref.name) :
    (r.world.files.exists wanted.dir = true →
      locate services ref r = (.ok wanted, r.settled wanted.space)) ∧
    (r.world.files.exists wanted.dir = false →
      ∃ (spaces : List String) (result : Except Fault ActiveTemplate) (w' : World),
        (spaces.map Text.bytes).Pairwise (· < ·) ∧
        (∀ space, space ∈ spaces ↔ Elsewhere services.settings r.world.files wanted space) ∧
        Consulted services.operator wanted (spaces.map (.of services.settings · wanted.name))
          (r.world.afterMissing wanted) result w' ∧
        locate services ref r = (result, { r.settled wanted.space with world := w' })) := by
  subst hwanted
  refine ⟨fun hthere => locate_of_exists hthere, fun hmissing => ?_⟩
  obtain ⟨spaces, hordered, hmem, heq⟩ := exists_spaces hw rfl hmissing
  have hconsulted := consulted_offer services.operator
    (.of services.settings (spaceOf r.session ref) ref.name)
    (spaces.map (.of services.settings · ref.name))
    (r.world.afterMissing (.of services.settings (spaceOf r.session ref) ref.name))
  refine ⟨spaces, _, _, hordered, hmem, hconsulted, ?_⟩
  have hsearch := searchElsewhere_eq services
    (.of services.settings (spaceOf r.session ref) ref.name) r.world
  rw [heq] at hsearch
  rw [locate_of_missing hmissing]
  exact congrArg (fun out => (out.1, { r.settled (spaceOf r.session ref) with world := out.2 })) hsearch

namespace AgreedSample

/-- Services with an operator who agrees to everything. -/
def services : Services :=
  { Make.Sample.bare with operator := fun _ left _ => (.ok (.bool true), left) }

def runWith (more : List (Location × Entry)) : Run :=
  let files : FileTree :=
    ⟨[(["t"], .dir), (["t", "acme"], .dir), (["t", "acme", "card"], .dir)] ++ more, []⟩
  ⟨Session.fresh ⟨"work"⟩, ⟨files, [], [], [], [], []⟩⟩

/-- One namespace holds a directory `card`, and it is not the default one. -/
def run : Run :=
  runWith []

/-- Where the template is asked for there is a file. -/
def fileRun : Run :=
  runWith [(["t", "default"], .dir), (["t", "default", "card"], .file "x".toUTF8)]

def card : TemplateRef := ⟨none, "card"⟩

def template (space : String) : ActiveTemplate :=
  .of services.settings space "card"

theorem elsewhere_acme (more : List (Location × Entry)) :
    Elsewhere services.settings (runWith more).world.files (template "default") "acme" where
  other := by decide
  found := ⟨["t"], rfl, rfl⟩
  there := rfl

theorem located_acme : (locate services card run).1.toOption = some (template "acme") := by
  decide +kernel

end AgreedSample

open AgreedSample in
/-- The template is taken when it is asked for with its namespace; asked for without one, it is taken
when its offer is agreed to. -/
theorem used_when_agreed_sample :
    run.world.files.WellFormed ∧ run.world.files.exists (template "acme").dir = true ∧
      locate services ⟨some "acme", "card"⟩ run = (.ok (template "acme"), run.settled "acme") ∧
      run.world.files.exists (template "default").dir = false ∧
      ∃ (spaces : List String) (w' : World), "acme" ∈ spaces ∧ "default" ∉ spaces ∧
        Consulted services.operator (template "default") (spaces.map template)
          (run.world.afterMissing (template "default")) (.ok (template "acme")) w' ∧
        locate services card run =
          (.ok (template "acme"), { run.settled "default" with world := w' }) := by
  have hw : run.world.files.WellFormed := by decide
  have hthere : run.world.files.exists (template "acme").dir = true := rfl
  have hmissing : run.world.files.exists (template "default").dir = false := rfl
  have hasked := (used_when_agreed services ⟨some "acme", "card"⟩ hw (template "acme") rfl).1
  obtain ⟨spaces, result, w', -, hmem, hconsulted, hlocate⟩ :=
    (used_when_agreed services card hw (template "default") rfl).2 hmissing
  have hresult := located_acme
  rw [hlocate] at hresult
  obtain rfl : result = .ok (template "acme") := by
    cases result with
    | error e => exact absurd hresult (by simp [Except.toOption])
    | ok t => exact congrArg Except.ok (Option.some.inj hresult)
  refine ⟨hw, hthere, hasked hthere, hmissing, spaces, w', (hmem _).2 (elsewhere_acme []), fun hin => ?_,
    hconsulted, hlocate⟩
  exact ((hmem _).1 hin).other rfl

open AgreedSample in
/-- A file is taken for a template, though it is no directory and there is one elsewhere. -/
theorem file_is_taken_for_template :
    fileRun.world.files.WellFormed ∧ fileRun.world.files.isDir (template "default").dir = false ∧
      Elsewhere services.settings fileRun.world.files (template "default") "acme" ∧
      locate services card fileRun = (.ok (template "default"), fileRun.settled "default") := by
  refine ⟨by decide, rfl, elsewhere_acme _, ?_⟩
  exact locate_of_exists rfl

end Stencil
