import Stencil.Proofs.Project.Saved
import Stencil.Proofs.Prompt.Heard

/-!
# What initialising asks before it replaces a file

A project's configuration that is there is replaced only after the operator has agreed, as far as it is
the one in the working directory (`init_asks_before_replacing`). The question comes first, before the
project's root is known; and the root decides where the answers go. So a root that is another directory
has its configuration replaced without a word (`init_replaces_elsewhere`), and so has the home directory
when its place is not recognised by the path that was answered.
-/

set_option autoImplicit false

namespace Stencil.Project

variable {services : Services} {config : ConfigFile} {workingDir : Path}

/-- The question whether to replace a configuration. -/
def replaceQuestion : Question :=
  .confirm "Do you want to force overwrite?" false

/-! ## 1. The question -/

/-- Where the working directory has a configuration that is not the user's own, the operator has agreed
to replace it, or the initialising goes no further. -/
theorem agreed_of_confirmReplacing {w w' : World}
    (hpresent : (ConfigFile.project workingDir).isPresent w.files = true)
    (hhome : ConfigFile.isHome services.settings w.files workingDir = false)
    (h : confirmReplacing services workingDir false w = (.ok (), w')) :
    w'.asked = w.asked ++ [replaceQuestion] ∧
      ∃ v answers, services.operator w.asked w.answers replaceQuestion = (.ok v, answers) ∧
        v.isTruthy = true := by
  have hglobal : (ConfigFile.project workingDir).isGlobal services.settings w.files = false := by
    unfold ConfigFile.isGlobal
    rw [show (ConfigFile.project workingDir).dir = workingDir from rfl, hhome, Bool.and_false]
  unfold confirmReplacing at h
  obtain ⟨files, w₁, hfiles, h⟩ := Step.bind_eq_ok h
  obtain ⟨hw, rfl⟩ := Prod.mk.inj hfiles
  obtain rfl := Except.ok.inj hw
  simp only [hpresent, hglobal, Bool.not_false, Bool.and_true, if_true] at h
  obtain ⟨_, w₂, htell, h⟩ := Step.bind_eq_ok h
  obtain ⟨-, rfl⟩ := Prod.mk.inj htell
  obtain ⟨agreed, w₃, hconfirm, h⟩ := Step.bind_eq_ok h
  obtain ⟨v, w₄, hask, hpure⟩ := Step.bind_eq_ok hconfirm
  obtain ⟨htruthy, rfl⟩ := Prod.mk.inj hpure
  obtain ⟨hreply, rfl⟩ := Prod.mk.inj hask
  cases hv : v.isTruthy with
  | false =>
    rw [← Except.ok.inj htruthy, hv] at h
    exact absurd (Prod.mk.inj h).1 (by simp)
  | true =>
    rw [← Except.ok.inj htruthy, hv] at h
    obtain ⟨-, rfl⟩ := Prod.mk.inj h
    exact ⟨rfl, v, _, Prod.ext hreply rfl, hv⟩

theorem unasked_saveAnswers (workingDir : Path) (answers : Store) :
    Step.Keeps World.exchange (saveAnswers services workingDir answers) := by
  refine Step.Keeps.bind (fun _ => rfl) fun files => Step.keeps_first (Step.keeps_fail _) ?_
  refine (ConfigFile.unasked_save _).bind fun _ => ?_
  exact Step.Keeps.bind (fun _ => rfl) fun _ => Step.keeps_pure _

theorem keepsAsked_saveAnswers (workingDir : Path) (answers : Store) :
    Step.Keeps World.asked (saveAnswers services workingDir answers) :=
  fun w => congrArg Prod.fst (unasked_saveAnswers workingDir answers w)

/-! ## 2. Initialising -/

/-- **Initialising asks before it replaces.** When the configuration that the answers were saved to was
there before and was not empty, and it is the one in the working directory, then the first question was
whether to replace it, and the operator agreed; the twelve questions came after it. -/
theorem init_asks_before_replacing {r r' : Run} {loc : Location} {content : ByteArray}
    (h : init services false r = (.ok config, r'))
    (hsaved : r'.world.files.locate config.path = .ok loc)
    (hbefore : r.world.files.at? loc = some (.file content)) (hfilled : content.size ≠ 0)
    (hhere : r.world.files.locate (ConfigFile.project r.session.workingDir).path = .ok loc)
    (hhome : ConfigFile.isHome services.settings r.world.files r.session.workingDir = false) :
    (∃ asked, r'.world.asked = r.world.asked ++ replaceQuestion :: asked ∧
      asked.map (·.name) = names) ∧
    (∃ v answers, services.operator r.world.asked r.world.answers replaceQuestion = (.ok v, answers) ∧
      v.isTruthy = true) ∧
    r'.world.files.at? loc = some (.file (ConfigFile.fileText config.data).toUTF8) := by
  have hpresent : (ConfigFile.project r.session.workingDir).isPresent r.world.files = true := by
    have hread := FileTree.read?_eq_some.2 ⟨loc, hhere, hbefore⟩
    unfold ConfigFile.isPresent
    rw [hread]
    simpa using hfilled
  have hfile := (leaves_init h).file
  obtain ⟨⟨answers, w₁, w₂, hconfirm, hask, hsave⟩, -⟩ := init_eq_ok h
  obtain ⟨hquestion, hagreed⟩ := agreed_of_confirmReplacing hpresent hhome hconfirm
  obtain ⟨dir, dirName, asked, given, -, hcollected, hnames⟩ := askAll_eq_ok hask
  have hkept : r'.world.asked = w₂.asked := by
    have hkeeps : (saveAnswers services r.session.workingDir answers w₂).2.asked = w₂.asked :=
      keepsAsked_saveAnswers _ _ _
    rwa [hsave] at hkeeps
  refine ⟨⟨asked, ?_, hnames⟩, hagreed, ?_⟩
  · rw [hkept, hcollected.asked_eq, hquestion, List.append_assoc]
    rfl
  · obtain ⟨loc', hloc, hat⟩ := FileTree.read?_eq_some.1 hfile
    obtain rfl : loc = loc' := Except.ok.inj (hsaved.symm.trans hloc)
    exact hat

namespace ReplacedSample

def old : ByteArray :=
  "\x7b\"project_name\":\"old\"\x7d".toUTF8

/-- Someone who names the project, beside another answer. There is a configuration in `/work`, and none in
`/new`. -/
def run (dir : String) (answer : String × Value) : Run :=
  let files : FileTree := ⟨[(["home"], .dir), (["new"], .dir), (["work"], .dir),
    (["work", ".forge.json"], .file old)], []⟩
  ⟨Session.fresh ⟨dir⟩, ⟨files, [], [], [(answer.1, [.value answer.2]),
    ("project_name", [.value (.str "site")]), ("vendor_name", [.value (.str "acme")])], [], []⟩⟩

/-- In the working directory, and agreeing. -/
def agreeing : Run :=
  run "/work" ("Do you want to force overwrite?", .bool true)

/-- In another directory, and naming it the root. -/
def elsewhere : Run :=
  run "/new" ("project_root", .str "/work")

def left (r : Run) : Except Fault ConfigFile × Run :=
  init Sample.services false r

end ReplacedSample

open ReplacedSample in
theorem init_asks_before_replacing_agreeing :
    ∃ config, left agreeing = (.ok config, (left agreeing).2) ∧
      (left agreeing).2.world.asked.map (·.name) = "Do you want to force overwrite?" :: names ∧
      (left agreeing).2.world.files.at? ["work", ".forge.json"] =
        some (.file (ConfigFile.fileText config.data).toUTF8) := by
  have hvalues : ∃ config ∈ (left agreeing).1.toOption,
      (left agreeing).2.world.files.locate config.path = .ok ["work", ".forge.json"] := by
    decide +kernel
  have hhere : agreeing.world.files.locate
      (ConfigFile.project agreeing.session.workingDir).path =
        .ok ["work", ".forge.json"] := by decide +kernel
  have hhome : ConfigFile.isHome Sample.services.settings agreeing.world.files
      agreeing.session.workingDir = false := by decide +kernel
  have hbefore : agreeing.world.files.at? ["work", ".forge.json"] = some (.file old) := rfl
  obtain ⟨config, hconfig, hsaved⟩ := hvalues
  have hinit := Step.eq_ok_of_toOption hconfig
  obtain ⟨⟨asked, hasked, hnames⟩, -, hat⟩ :=
    init_asks_before_replacing hinit hsaved hbefore (by decide +kernel) hhere hhome
  refine ⟨config, hinit, ?_, hat⟩
  rw [hasked, List.map_append, List.map_cons, hnames]
  rfl

open ReplacedSample in
/-- A root that is not the working directory has its configuration replaced, and nothing but the twelve
questions is asked. -/
theorem init_replaces_elsewhere :
    ∃ config ∈ (left elsewhere).1.toOption,
      elsewhere.world.files.read? config.path = some old ∧ old.size ≠ 0 ∧
      (left elsewhere).2.world.files.read? config.path ≠ some old ∧
      (left elsewhere).2.world.asked.map (·.name) = names ∧ replaceQuestion.name ∉ names := by
  decide +kernel

end Stencil.Project
