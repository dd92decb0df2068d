import Stencil.Directive.Perform
import Stencil.Proofs.Step
import Stencil.Proofs.Transform.Chain

/-!
# What directives fail with

Faults of a specification are raised where specifications are read. What comes after, the rendering of
texts, the asking of prompts, the copying of files and the running of commands and scripts, fails with
faults of other kinds; so says `Clean`, step by step. Two things are not settled by reading:

* the globs of a copy directive, which are read when the directive is carried out
  (`CopyDirective.clean_perform` asks for them to be well formed), and
* what the host does that a command line is handed to (`RunDirective.host_of_perform_error`).

Rendering, and with it every transform, fails with unknown transforms only
(`Render.unknownTransform_of_text`).
-/

set_option autoImplicit false

namespace Stencil

/-- An entry of a configuration lacks a field, or names a directive, a condition or a pattern that is
none. -/
def Fault.isSpecification : Fault → Bool
  | .missingField _ _ _ => true
  | .unknownDirective _ => true
  | .unknownCondition _ => true
  | .globPattern _ => true
  | _ => false

/-- The fault is of another kind. -/
def Fault.OfRunning (e : Fault) : Prop :=
  e.isSpecification = false

/-- The step fails with no fault of a specification. -/
abbrev Step.Clean {σ α : Type} (m : Step σ Fault α) : Prop :=
  Step.Raises Fault.OfRunning m

theorem Fault.error_of_map {α β : Type} {x : Except Fault α} {f : α → β} {e : Fault}
    (h : x.map f = .error e) : x = .error e := by
  cases x with
  | error e' => rw [← Except.error.inj h]
  | ok a => exact absurd h (by simp [Except.map])

/-! ## 1. Rendering -/

section

variable {r : Registry} {files : FileTree} {value : Value} {names : List String} {e : Fault}

theorem Registry.unknownTransform_of_ensureKnown (h : r.ensureKnown names = .error e) :
    ∃ name, e = .unknownTransform name := by
  obtain ⟨-, name, -, -, -, -, rfl⟩ := Registry.ensureKnown_eq_error_iff.1 h
  exact ⟨name, rfl⟩

theorem Registry.unknownTransform_of_apply (h : r.apply files value names = .error e) :
    ∃ name, e = .unknownTransform name :=
  Registry.unknownTransform_of_ensureKnown (Registry.apply_error_iff.1 h)

end

namespace Render

variable {c : Context} {e : Fault}

theorem Expression.unknownTransform_of_evaluate {x : Expression} (h : x.evaluate c = .error e) :
    ∃ name, e = .unknownTransform name := by
  unfold evaluate at h
  cases x with
  | comment => exact absurd h (by simp)
  | value key names =>
    simp only at h
    split at h
    · rename_i e' hknown
      obtain rfl : e' = e := Except.error.inj h
      exact Registry.unknownTransform_of_ensureKnown hknown
    · exact Registry.unknownTransform_of_apply (Fault.error_of_map h)

theorem Segment.unknownTransform_of_evaluate {s : Segment} (h : s.evaluate c = .error e) :
    ∃ name, e = .unknownTransform name := by
  unfold evaluate at h
  cases s with
  | literal cs => exact absurd h (by simp)
  | tail cs => exact absurd h (by simp)
  | placeholder raw expr => exact Expression.unknownTransform_of_evaluate (Fault.error_of_map h)

theorem unknownTransform_of_renderSegments {segments : List Segment}
    (h : renderSegments c segments = .error e) : ∃ name, e = .unknownTransform name := by
  induction segments with
  | nil => exact absurd h (by simp [renderSegments])
  | cons s rest ih =>
    unfold renderSegments at h
    split at h
    · rename_i e' hs
      obtain rfl : e' = e := Except.error.inj h
      exact Segment.unknownTransform_of_evaluate hs
    · exact ih (Fault.error_of_map h)

/-- A text that does not render names a transform that is not registered. -/
theorem unknownTransform_of_text {s : String} (h : text c s = .error e) :
    ∃ name, e = .unknownTransform name :=
  unknownTransform_of_renderSegments (Fault.error_of_map h)

theorem unknownTransform_of_components {components : List Path.Component} {p : Path}
    (h : Render.components c p components = .error e) : ∃ name, e = .unknownTransform name := by
  induction components generalizing p with
  | nil => exact absurd h (by simp [Render.components])
  | cons component rest ih =>
    unfold Render.components at h
    split at h
    · rename_i e' htext
      obtain rfl : e' = e := Except.error.inj h
      exact unknownTransform_of_text htext
    · exact ih h

theorem unknownTransform_of_content {bytes : ByteArray} (h : content c bytes = .error e) :
    ∃ name, e = .unknownTransform name := by
  unfold content at h
  split at h
  · exact absurd h (by simp)
  · split at h
    · exact absurd h (by simp)
    · exact unknownTransform_of_text (Fault.error_of_map h)

end Render

theorem Fault.ofRunning_of_unknownTransform {e : Fault} (h : ∃ name, e = .unknownTransform name) :
    e.OfRunning := by
  obtain ⟨name, rfl⟩ := h
  rfl

theorem Services.clean_render (services : Services) (text : String) :
    (services.render text).Clean :=
  fun _ _ _ h => Fault.ofRunning_of_unknownTransform
    (Render.unknownTransform_of_text (Prod.mk.inj h).1)

/-! ## 2. The world -/

namespace World

section

variable {allowed : Fault → Prop} {e : Fault}

theorem raises_onFiles {α : Type} {m : Step FileTree Fault α} (hm : Step.Raises allowed m) :
    Step.Raises allowed (onFiles m) :=
  hm.on _ _

theorem raises_makeDirs (p : Path) (h : allowed e) : Step.Raises allowed (makeDirs p e) :=
  raises_onFiles (Step.raises_attempt h _)

theorem raises_writeHere (p : Path) (content : ByteArray) (h : allowed e) :
    Step.Raises allowed (writeHere p content e) :=
  raises_onFiles (Step.raises_attempt h _)

/-- A write fails at a directory above the file, or at the file. -/
theorem raises_write (p : Path) (content : ByteArray)
    (hdirs : ∀ dir : Path, allowed (.io s!"creating directory {dir.text}"))
    (hfile : allowed (.io s!"writing {p.text}")) : Step.Raises allowed (write p content) := by
  unfold write
  have hhere := raises_writeHere p content hfile
  split
  · exact Step.raises_first (raises_makeDirs _ (hdirs _)) hhere
  · exact hhere

theorem raises_read (p : Path) (h : allowed (.io s!"reading {p.text}")) :
    Step.Raises allowed (read p) := by
  intro w e w' hread
  unfold read at hread
  split at hread
  · exact absurd (Prod.mk.inj hread).1 (by simp)
  · exact Except.error.inj (Prod.mk.inj hread).1 ▸ h

theorem raises_list (p : Path) (h : allowed (.io s!"listing {p.text}")) :
    Step.Raises allowed (list p) := by
  intro w e w' hlist
  unfold list at hlist
  split at hlist
  · exact absurd (Prod.mk.inj hlist).1 (by simp)
  · exact Except.error.inj (Prod.mk.inj hlist).1 ▸ h

end

theorem clean_write (p : Path) (content : ByteArray) : (write p content).Clean :=
  raises_write p content (fun _ => rfl) rfl

theorem clean_read (p : Path) : (read p).Clean :=
  raises_read p rfl

theorem clean_list (p : Path) : (list p).Clean :=
  raises_list p rfl

end World

/-! ## 3. Copies -/

namespace Scaffold

variable (s : Scaffold) (data : Store)

theorem clean_copyFile (source target : Path) : (s.copyFile data source target).Clean := by
  unfold copyFile
  refine (Step.raises_asks _).bind fun there => ?_
  split
  · exact (Step.raises_modify _).bind fun _ => Step.raises_pure _
  · refine (Step.raises_asks _).bind fun found => ?_
    split
    · exact Step.raises_fail rfl
    · refine (World.clean_read source).bind fun content => ?_
      refine Step.raises_get.bind fun w => ?_
      refine (Step.raises_ofExcept fun e he => ?_).bind fun rendered => ?_
      · exact Fault.ofRunning_of_unknownTransform (Render.unknownTransform_of_content he)
      refine (World.clean_write _ _).bind fun _ => ?_
      exact (Step.raises_modify _).bind fun _ => Step.raises_pure _

section

variable {σ : Type} {a : Access σ} {law : ∀ {α : Type}, Step σ Fault α → Prop} {target : Path}

theorem law_copyEntries (hlaw : Step.Closed law) (hrender : ∀ rel, law (a.render rel))
    (hcopy : ∀ source target, law (a.copy source target)) (rel : Path) (report : CopyReport)
    (subdirs entries : List Path) : law (s.copyEntries a target rel report subdirs entries) := by
  induction entries generalizing report subdirs with
  | nil => exact hlaw.pure _
  | cons entry rest ih =>
    rw [copyEntries]
    split
    · exact ih report subdirs
    · split
      · exact ih report subdirs
      · refine hlaw.bind (hlaw.asks _) fun isDir _ _ _ => ?_
        split
        · exact ih report _
        · refine hlaw.bind (hrender _) fun rendered _ _ _ => ?_
          exact hlaw.bind (hcopy _ _) fun outcome _ _ _ => ih _ subdirs

/-- A copy of a directory has the laws of its access. -/
theorem law_copyPending {source : Path} (hlaw : Step.Closed law) (hlist : ∀ p, law (a.list p))
    (hrender : ∀ rel, law (a.render rel)) (hcopy : ∀ source target, law (a.copy source target))
    (report : CopyReport) (pending : List Path) :
    law (s.copyPending a source target report pending) := by
  induction report, pending using copyPending.induct s a source target with
  | case1 report =>
    rw [copyPending_nil]
    exact hlaw.pure _
  | case2 report rel pending ih =>
    rw [copyPending_cons]
    refine hlaw.bind ?_ fun ⟨report', subdirs⟩ state s₁ hlevel => ?_
    · refine hlaw.bind (hlist _) fun entries _ _ _ => ?_
      exact s.law_copyEntries hlaw hrender hcopy rel report [] entries
    · -- `ih` speaks only of what the level can come to, which is why `Closed.bind` asks for no more
      exact ih state report' subdirs s₁ hlevel

end

theorem clean_copyDir (source target : Path) : (s.copyDir data source target).Clean := by
  refine s.law_copyPending (Step.closed_raises _) World.clean_list (fun rel => ?_)
    (s.clean_copyFile data) _ _
  exact fun _ _ _ h => Fault.ofRunning_of_unknownTransform
    (Render.unknownTransform_of_components (Prod.mk.inj h).1)

end Scaffold

/-! ## 4. Directives -/

theorem Session.ofRunning_of_baseDir {s : Session} {relativeTo : RelativeTo} {e : Fault}
    (h : s.baseDir relativeTo = .error e) : e.OfRunning := by
  unfold baseDir templateDir at h
  split at h
  · exact absurd h (by simp)
  · exact absurd h (by simp)
  · split at h
    · exact absurd h (by simp)
    · rw [← Except.error.inj h]
      rfl

theorem Session.ofRunning_of_templateDir {s : Session} {e : Fault} (h : s.templateDir = .error e) :
    e.OfRunning :=
  ofRunning_of_baseDir (show s.baseDir .templateDir = .error e from h)

namespace Condition

variable {services : Services} {r : Run} {e : Fault}

theorem ofRunning_of_holds {c : Condition} (h : c.holds services r = .error e) : e.OfRunning := by
  induction c generalizing e with
  | «exists» key => exact absurd h (by simp [holds])
  | equals key value => exact absurd h (by simp [holds])
  | filePresent file relativeTo =>
    unfold holds findsFile at h
    split at h
    · rename_i e' hbase
      rw [← Except.error.inj h]
      exact Session.ofRunning_of_baseDir hbase
    · exact Fault.ofRunning_of_unknownTransform
        (Render.unknownTransform_of_text (Fault.error_of_map h))
  | not inner ih =>
    unfold holds at h
    exact ih (Fault.error_of_map h)

theorem ofRunning_of_allHold {conditions : List Condition}
    (h : allHold services r conditions = .error e) : e.OfRunning := by
  induction conditions with
  | nil => exact absurd h (by simp [allHold])
  | cons c rest ih =>
    unfold allHold at h
    split at h
    · rename_i e' hc
      rw [← Except.error.inj h]
      exact ofRunning_of_holds hc
    · exact absurd h (by simp)
    · exact ih h

end Condition

theorem Job.clean_consult {α : Type} {f : Session → Except Fault α}
    (h : ∀ s e, f s = .error e → e.OfRunning) : (consult f).Clean :=
  fun r e _ hfail => h r.session e (Prod.mk.inj hfail).1

theorem Job.clean_outside {α : Type} {m : Act α} (h : m.Clean) : (outside m).Clean :=
  h.on _ _

theorem Directive.clean_allowed (d : Directive) (services : Services) :
    (d.allowed services).Clean := by
  intro r e r' h
  unfold allowed at h
  split at h
  · exact absurd (Prod.mk.inj h).1 (by simp)
  · exact Condition.ofRunning_of_allHold (Prod.mk.inj h).1

/-- The globs of the directive are well formed. -/
def CopyDirective.ReadsGlobs (d : CopyDirective) : Prop :=
  ∃ globs, Scaffold.readGlobs d.exclude = .ok globs

instance (d : CopyDirective) : Decidable d.ReadsGlobs :=
  match h : Scaffold.readGlobs d.exclude with
  | .ok globs => .isTrue ⟨globs, h⟩
  | .error _ => .isFalse fun ⟨_, hok⟩ => nomatch h.symm.trans hok

theorem CopyDirective.clean_copy {d : CopyDirective} (hglobs : d.ReadsGlobs) (services : Services)
    (templateDir source target : Path) :
    (d.copy services templateDir source target).Clean := by
  obtain ⟨globs, hglobs⟩ := hglobs
  refine (Step.raises_asks _).bind fun s => ?_
  refine (Step.raises_ofExcept fun e he => ?_).bind fun copies => ?_
  · have hreadGlobs := Fault.error_of_map he
    rw [hglobs] at hreadGlobs
    exact absurd hreadGlobs (by simp)
  refine (Job.clean_outside (Step.raises_asks _)).bind fun isDir => ?_
  cases d.actionFor isDir with
  | copyDir =>
    exact (Job.clean_outside (copies.clean_copyDir _ _ _)).bind fun _ => Step.raises_pure ()
  | copyFile =>
    exact (Job.clean_outside (copies.clean_copyFile _ _ _)).bind fun _ => Step.raises_pure ()

/-- A copy directive whose globs are well formed fails with no fault of a specification. -/
theorem CopyDirective.clean_perform {d : CopyDirective} (hglobs : d.ReadsGlobs)
    (services : Services) : (d.perform services).Clean := by
  refine (Job.clean_consult fun _ _ => Session.ofRunning_of_templateDir).bind fun templateDir => ?_
  refine (services.clean_render _).bind fun source => ?_
  refine (Job.clean_consult fun _ _ => Session.ofRunning_of_baseDir).bind fun base => ?_
  refine (services.clean_render _).bind fun target => ?_
  refine (Job.clean_outside (Step.raises_asks _)).bind fun there => ?_
  exact Step.raises_ite (clean_copy hglobs services _ _ _) (Step.raises_fail rfl)

theorem ExecuteDirective.clean_adopt (file : String) (result : ScriptResult) :
    (adopt file result).Clean := by
  have hdata : (adoptData file result).Clean := by
    unfold adoptData
    split
    · exact Step.raises_pure ()
    · exact Step.raises_modify _
    · exact Step.raises_fail rfl
  have hmessages : (adoptMessages file result).Clean := by
    unfold adoptMessages
    split
    · exact Step.raises_pure ()
    · exact Step.raises_modify _
    · exact Step.raises_fail rfl
  exact hdata.bind fun _ => hmessages

theorem ExecuteDirective.clean_perform (d : ExecuteDirective) (services : Services) :
    (d.perform services).Clean := by
  refine (Job.clean_consult fun _ _ => Session.ofRunning_of_templateDir).bind fun templateDir => ?_
  refine (services.clean_render _).bind fun file => ?_
  refine (Job.clean_outside (Step.raises_asks _)).bind fun there => ?_
  refine Step.raises_ite ?_ (Step.raises_fail rfl)
  refine (Job.clean_outside (World.clean_read _)).bind fun content => ?_
  refine Step.raises_get.bind fun r => ?_
  dsimp only
  split
  · exact Step.raises_fail rfl
  · exact clean_adopt _ _

theorem RunDirective.clean_spawnIn (shell : Shell) (dir : Path) (command : String) :
    (spawnIn shell dir command).Clean := by
  intro w e w' h
  unfold spawnIn at h
  split at h
  · split at h
    · dsimp only at h
      split at h
      · exact absurd (Prod.mk.inj h).1 (by simp)
      · rw [← Except.error.inj (Prod.mk.inj h).1]
        rfl
    · rw [← Except.error.inj (Prod.mk.inj h).1]
      rfl
  · rw [← Except.error.inj (Prod.mk.inj h).1]
    rfl

/-- Where a run directive fails with a fault of a specification, a host has failed with it. -/
theorem RunDirective.host_of_perform_error {d : RunDirective} {services : Services} {r r' : Run}
    {e : Fault} (h : d.perform services r = (.error e, r')) (he : e.isSpecification = true) :
    ∃ command first args host, Render.text (services.context r) d.command = .ok command ∧
      Shell.words? command = some (first :: args) ∧ Settings.isBaseCommand first = true ∧
      services.host = some host ∧ host args r = (.error e, r') := by
  have hclean : ∀ {α : Type} {m : Job α}, m.Clean → ∀ r₁, m r₁ ≠ (.error e, r') := by
    intro α m hm r₁ hfail
    exact absurd (he.symm.trans (hm r₁ e r' hfail)) (by simp)
  rcases Step.bind_eq_error h with hrender | ⟨command, r₁, hrender, h⟩
  · exact absurd hrender (hclean (services.clean_render _) r)
  obtain ⟨htext, rfl⟩ := Prod.mk.inj hrender
  cases hwords : Shell.words? command with
  | none =>
    rw [hwords] at h
    exact absurd h (hclean (Step.raises_fail (by rfl)) r)
  | some words =>
    cases words with
    | nil =>
      rw [hwords] at h
      exact absurd h (hclean (Step.raises_pure ()) r)
    | cons first args =>
      rw [hwords] at h
      by_cases hbase : Settings.isBaseCommand first = true
      · simp only [hbase, if_true, callHost] at h
        cases hhost : services.host with
        | none =>
          rw [hhost] at h
          exact absurd h (hclean (Step.raises_fail (by rfl)) r)
        | some host =>
          rw [hhost] at h
          exact ⟨command, first, args, host, htext, hwords, hbase, rfl, h⟩
      · simp only [hbase] at h
        refine absurd h (hclean ?_ r)
        refine (Job.clean_consult fun _ _ => Session.ofRunning_of_baseDir).bind fun dir => ?_
        exact Job.clean_outside (clean_spawnIn _ _ _)

end Stencil
