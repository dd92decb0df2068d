import Stencil.Proofs.Config.RoundTrip
import Stencil.Proofs.Step
import Stencil.Proofs.Store.Maps
import Stencil.Template.Repository

/-!
# The register of repositories

Repositories are registered in a configuration file under `templates.<name>.url` and
`templates.<name>.path`, and listed by the keys of `templates`. Both ways of looking at them agree
as long as a name is one segment of a key (`Plain`). For such names the data are an ordered map from
names to urls and paths (`Register`), put into values entry by entry (`HeldBy`), and what a call
does to the data is what it does to the map (`HeldBy.registered`, `HeldBy.forget`).

`Keeps` is the invariant of a row of calls: the file in memory holds a register, and the file on
disk holds the same data. One call keeps it with the register changed (`Keeps.perform`), so a row of
calls does (`Keeps.each`). What is left to say is about the map alone: under a name stands what the
last call on the name put there (`Register.find?_after`), and what stands under other names is not
touched (`Call.drop_apply`).

A name with a dot is written below another name: it is not in the list, and it can take the url of
the other one (`dotted_name_takes_another`).
-/

set_option autoImplicit false

namespace Stencil

namespace ConfigFile

variable {c c' : ConfigFile} {w w' : World}

/-- A step on the world leaves the file alone. -/
theorem beside_eq {α : Type} {m : Act α} {x : Except Fault α}
    (h : beside m (c, w) = (x, (c', w'))) : c' = c ∧ m w = (x, w') := by
  obtain ⟨hresult, hstate⟩ := Prod.mk.inj h
  obtain ⟨hfile, hworld⟩ := Prod.mk.inj hstate
  exact ⟨hfile.symm, Prod.ext hresult hworld⟩

theorem saveNow_eq {x : Except Fault Unit} (h : saveNow (c, w) = (x, (c', w'))) :
    c' = c ∧ c.save w = (x, w') :=
  beside_eq (m := c.save) h

/-- The data of a file were changed and saved, and the files are as the saving left them. -/
def Saved (change : Store → Store) (c c' : ConfigFile) (w' : World) : Prop :=
  c' = { c with data := change c.data } ∧
    ∃ w₁ w₂, c'.save w₁ = (.ok (), w₂) ∧ w'.files = w₂.files

theorem saved_of_saveNow_tell {change : Store → Store} {kind : MessageKind} {text : String}
    (h : (saveNow >>= fun _ => beside (World.tell kind text))
      ({ c with data := change c.data }, w) = (.ok (), (c', w'))) : Saved change c c' w' := by
  obtain ⟨_, ⟨c₂, w₂⟩, hsave, htell⟩ := Step.bind_eq_ok h
  obtain ⟨rfl, hsaved⟩ := saveNow_eq hsave
  obtain ⟨rfl, htold⟩ := beside_eq htell
  exact ⟨rfl, w, w₂, hsaved, by rw [← (Prod.mk.inj htold).2]⟩

end ConfigFile

namespace Repository

/-! ## 1. The segments of a registration -/

/-- A name that is one segment of a key. -/
structure Plain (name : String) : Prop where
  ne_empty : name ≠ ""
  no_dot : '.' ∉ name.toList

theorem segments_key {name : String} (h : '.' ∉ name.toList) :
    segments (key name) = ["templates", name] := by
  have hkey : key name = "templates" ++ "." ++ name := rfl
  rw [hkey, segments_append_dot, segments_of_no_dot h]
  rfl

theorem segments_urlKey {name : String} (h : '.' ∉ name.toList) :
    segments (urlKey name) = ["templates", name, "url"] := by
  have hkey : urlKey name = key name ++ "." ++ "url" := by
    rw [String.append_assoc]
    rfl
  rw [hkey, segments_append_dot, segments_key h]
  rfl

theorem segments_pathKey {name : String} (h : '.' ∉ name.toList) :
    segments (pathKey name) = ["templates", name, "path"] := by
  have hkey : pathKey name = key name ++ "." ++ "path" := by
    rw [String.append_assoc]
    rfl
  rw [hkey, segments_append_dot, segments_key h]
  rfl

/-! ## 2. A register in the data -/

/-- What is registered: a url and a path for each name, in order. -/
abbrev Register := Fields (String × Path)

namespace Register

/-- A registration as it is kept in the data. -/
def datum (e : String × Path) : Value :=
  .map [("url", .str e.1), ("path", .str e.2.text)]

/-- The data hold a register: none at all at first, else one map under one key. -/
def HeldBy (r : Register) (data : Store) : Prop :=
  (data = .empty ∧ r = []) ∨ data = ⟨[("templates", .map (Fields.mapValues datum r))]⟩

/-- Writing the url and the path of a name. -/
theorem assign_datum (url : String) (path : Path) (old : Option (String × Path)) :
    Value.assign (.str path.text) ["path"]
      (Value.assign (.str url) ["url"] ((old.map datum).getD .null)) = datum (url, path) := by
  cases old with
  | none => rfl
  | some e => rfl

theorem HeldBy.registered {r : Register} {data : Store} (h : HeldBy r data) {name : String}
    (hname : '.' ∉ name.toList) (url : String) (path : Path) :
    HeldBy (Fields.put name (url, path) r) (registered name url path data) := by
  refine Or.inr (Store.toValue_injective ?_)
  unfold Repository.registered
  rw [Store.toValue_set, Store.toValue_set, segments_urlKey hname, segments_pathKey hname]
  rcases h with ⟨rfl, rfl⟩ | rfl
  · simp [Store.toValue, Store.empty, Value.assign, Fields.put, Fields.mapValues, datum]
  · have hput : _ = Fields.mapValues datum (Fields.put name (url, path) r) :=
      Fields.alter_mapValues (g := fun old => Value.assign (.str path.text) ["path"]
        (Value.assign (.str url) ["url"] (old.getD .null))) (assign_datum url path) name r
    simp only [Store.toValue, Value.assign_cons_map, Fields.alter, if_true, Option.getD_some,
      Fields.alter_alter]
    rw [← hput]

theorem HeldBy.forget {r : Register} {data : Store} (h : HeldBy r data) {name : String}
    (hname : '.' ∉ name.toList) : HeldBy (Fields.drop name r) (data.forget (key name)) := by
  unfold Store.forget Store.take
  rw [segments_key hname]
  rcases h with ⟨rfl, rfl⟩ | rfl
  · exact Or.inl ⟨rfl, rfl⟩
  · refine Or.inr ?_
    have hfind : Fields.find? "templates" [("templates", Value.map (Fields.mapValues datum r))] =
        some (.map (Fields.mapValues datum r)) := if_pos rfl
    rw [Store.toValue, Value.takeAt?, hfind]
    dsimp only
    rw [Value.takeAt?, Value.take?, Fields.find?_mapValues]
    cases hheld : Fields.find? name r with
    | none =>
      rw [Fields.drop_of_not_held hheld]
      rfl
    | some e =>
      rw [← Fields.drop_mapValues]
      rfl

theorem HeldBy.get?_templates {r : Register} {data : Store} (h : HeldBy r data) :
    data.get? "templates" = some (.map (Fields.mapValues datum r)) ∨
      (data.get? "templates" = none ∧ r = []) := by
  rcases h with ⟨rfl, rfl⟩ | rfl
  · exact Or.inr ⟨rfl, rfl⟩
  · exact Or.inl rfl

theorem HeldBy.getStr? {r : Register} {data : Store} (h : HeldBy r data) {name : String}
    (hname : '.' ∉ name.toList) :
    data.getStr? (urlKey name) = (Fields.find? name r).map Prod.fst ∧
      data.getStr? (pathKey name) = (Fields.find? name r).map (·.2.text) := by
  unfold Store.getStr? Store.get?
  rw [segments_urlKey hname, segments_pathKey hname]
  rcases h with ⟨rfl, rfl⟩ | rfl
  · exact ⟨rfl, rfl⟩
  · have hfind : Fields.find? "templates" [("templates", Value.map (Fields.mapValues datum r))] =
        some (.map (Fields.mapValues datum r)) := if_pos rfl
    simp only [Store.toValue, Value.at?, Value.child?, hfind, Option.bind_some,
      Fields.find?_mapValues]
    cases Fields.find? name r with
    | none => exact ⟨rfl, rfl⟩
    | some e => exact ⟨rfl, rfl⟩

theorem isWhole_mapValues_datum {r : Register} (h : Fields.Distinct r) :
    (Value.map (Fields.mapValues datum r)).isWhole = true := by
  refine Value.isWhole_map_iff.2 ⟨h.mapValues datum, fun e he => ?_⟩
  obtain ⟨e', -, rfl⟩ := List.mem_map.1 he
  rfl

/-- Data that hold a register can be saved and read. -/
theorem HeldBy.parse?_fileText {r : Register} {data : Store} (h : HeldBy r data)
    (hr : Fields.Distinct r) : ConfigFile.parse? (ConfigFile.fileText data) = some data := by
  rcases h with ⟨rfl, -⟩ | rfl
  · exact ConfigFile.parse?_fileText rfl (by decide)
  · refine ConfigFile.parse?_fileText (Value.isWhole_map_iff.2 ⟨List.nodup_singleton _, ?_⟩) ?_
    · simpa using isWhole_mapValues_datum hr
    · refine Value.depth_map_le_iff.2 ⟨126, rfl, fun e he => ?_⟩
      rw [List.mem_singleton.1 he]
      refine Value.depth_map_le_iff.2 ⟨125, rfl, fun e he => ?_⟩
      obtain ⟨e', -, rfl⟩ := List.mem_map.1 he
      exact (by decide : 1 ≤ 125)

/-- The entries of a register. -/
def entries (r : Register) : List Entry :=
  r.map fun e => ⟨e.1, e.2.1, e.2.2⟩

theorem HeldBy.location_eq {r : Register} {data : Store} (h : HeldBy r data) (settings : Settings)
    {name : String} (hname : '.' ∉ name.toList) :
    location settings data name =
      ((Fields.find? name r).map Prod.snd).getD (settings.repoDir name) := by
  unfold location
  rw [(h.getStr? hname).2]
  cases Fields.find? name r with
  | none => rfl
  | some e => rfl

theorem HeldBy.list_eq {r : Register} {data : Store} (h : HeldBy r data) (settings : Settings)
    (hr : Fields.Distinct r) (hplain : ∀ name ∈ Fields.keys r, '.' ∉ name.toList) :
    list settings data = entries r := by
  have hentry : ∀ e ∈ r, entry settings data e.1 = ⟨e.1, e.2.1, e.2.2⟩ := by
    intro e he
    have hname : '.' ∉ e.1.toList := hplain e.1 (List.mem_map_of_mem he)
    have hfind : Fields.find? e.1 r = some e.2 := Fields.find?_of_mem hr he
    unfold entry
    rw [h.location_eq settings hname, (h.getStr? hname).1, hfind]
    rfl
  unfold list
  rcases h.get?_templates with hdata | ⟨hdata, rfl⟩
  · rw [hdata]
    dsimp only
    rw [Fields.keys_mapValues, Fields.keys, List.map_map]
    exact List.map_congr_left hentry
  · rw [hdata]
    rfl

end Register

/-! ## 3. Calls -/

/-- A call that changes what is registered. -/
inductive Call where
  | register (name url : String) (path : Path)
  | delete (name : String)

namespace Call

/-- The name that a call is about. -/
def name : Call → String
  | .register name _ _ => name
  | .delete name => name

/-- Carries out a call. -/
def perform (settings : Settings) : Call → ConfigFile.Editing Unit
  | .register name url path => Repository.register name url path
  | .delete name => Repository.delete settings name

/-- What a call makes of the register: a name that is registered again keeps its place, one that is
deleted loses it. -/
def apply (r : Register) : Call → Register
  | .register name url path => Fields.put name (url, path) r
  | .delete name => Fields.drop name r

/-- What a call registers under its name. -/
def given : Call → Option (String × Path)
  | .register _ url path => some (url, path)
  | .delete _ => none

end Call

/-- The last call on a name. -/
def lastOn (name : String) (calls : List Call) : Option Call :=
  (calls.filter (·.name == name)).getLast?

/-- What calls leave of an empty register. -/
def Register.after (calls : List Call) : Register :=
  calls.foldl Call.apply []

/-- A configuration in memory that holds a register, and the file that holds it on disk. -/
structure Keeps (settings : Settings) (r : Register) (s : ConfigFile × World) : Prop where
  file : s.1 = { ConfigFile.global settings with data := s.1.data }
  held : r.HeldBy s.1.data
  distinct : Fields.Distinct r
  plain : ∀ name ∈ Fields.keys r, Plain name
  saved : s.1.load s.2.files = .ok s.1.data

section

variable {settings : Settings} {r : Register} {s s' : ConfigFile × World}

/-- What a call does to the data. -/
def Call.change : Call → Store → Store
  | .register name url path => registered name url path
  | .delete name => (·.forget (key name))

theorem Register.HeldBy.apply {data : Store} {call : Call} (h : r.HeldBy data)
    (hname : '.' ∉ call.name.toList) : (call.apply r).HeldBy (call.change data) := by
  cases call with
  | register name url path => exact h.registered hname url path
  | delete name => exact h.forget hname

theorem Call.distinct_apply (call : Call) (h : Fields.Distinct r) :
    Fields.Distinct (call.apply r) := by
  cases call with
  | register name url path => exact h.put name (url, path)
  | delete name => exact h.drop name

theorem Call.plain_apply {call : Call} (hcall : Plain call.name)
    (h : ∀ name ∈ Fields.keys r, Plain name) : ∀ name ∈ Fields.keys (call.apply r), Plain name := by
  intro n hn
  cases call with
  | register name url path =>
    rw [Call.apply, Fields.put, Fields.keys_alter] at hn
    split at hn
    · exact h n hn
    · rcases List.mem_append.1 hn with hn | hn
      · exact h n hn
      · exact List.mem_singleton.1 hn ▸ hcall
  | delete name => exact h n ((List.filter_sublist.map Prod.fst).subset hn)

/-- A deletion that succeeds saves the data without the name, whatever it did to the files
before. -/
theorem saved_of_delete {name : String} {c c' : ConfigFile} {w w' : World} (hname : name ≠ "")
    (h : delete settings name (c, w) = (.ok (), (c', w'))) :
    ConfigFile.Saved (·.forget (key name)) c c' w' := by
  have hnameOf : nameOf name = name := if_neg hname
  unfold delete at h
  rw [hnameOf] at h
  obtain ⟨data, s₁, hdata, hthen⟩ := Step.bind_eq_ok h
  obtain ⟨-, rfl⟩ := Prod.mk.inj hdata
  obtain ⟨present, ⟨c₂, w₂⟩, hpresent, hgo⟩ := Step.bind_eq_ok hthen
  obtain ⟨rfl, -⟩ := ConfigFile.beside_eq hpresent
  clear h hthen
  dsimp only at hgo
  split at hgo
  · exact absurd (Prod.mk.inj hgo).1 (by simp)
  · split at hgo
    · obtain ⟨_, ⟨c₃, w₃⟩, htold, hclear⟩ := Step.bind_eq_ok hgo
      obtain ⟨rfl, -⟩ := ConfigFile.beside_eq htold
      obtain ⟨_, ⟨c₄, w₄⟩, hcleared, hrest⟩ := Step.bind_eq_ok hclear
      obtain ⟨rfl, -⟩ := ConfigFile.beside_eq hcleared
      exact ConfigFile.saved_of_saveNow_tell hrest
    · exact ConfigFile.saved_of_saveNow_tell hgo

/-- A call that succeeds has changed the data and saved them. -/
theorem Call.saved {call : Call} {c c' : ConfigFile} {w w' : World} (hname : call.name ≠ "")
    (h : call.perform settings (c, w) = (.ok (), (c', w'))) :
    ConfigFile.Saved call.change c c' w' := by
  cases call with
  | register name url path =>
    obtain ⟨rfl, hsave⟩ := ConfigFile.saveNow_eq
      (show ConfigFile.saveNow ({ c with data := registered name url path c.data }, w) = _ from h)
    exact ⟨rfl, w, w', hsave, rfl⟩
  | delete name => exact saved_of_delete hname h

/-- **One call**: the file in memory and the file on disk hold what the call makes of the
register. -/
theorem Keeps.perform {call : Call} (h : Keeps settings r s) (hplain : Plain call.name)
    (hcall : call.perform settings s = (.ok (), s')) : Keeps settings (call.apply r) s' := by
  obtain ⟨c, w⟩ := s
  obtain ⟨c', w'⟩ := s'
  obtain ⟨rfl, w₁, w₂, hsave, hfiles⟩ := Call.saved hplain.ne_empty hcall
  have hfile := h.file
  have hheld : (call.apply r).HeldBy (call.change c.data) := h.held.apply hplain.no_dot
  have hdistinct : Fields.Distinct (call.apply r) := Call.distinct_apply call h.distinct
  refine ⟨?_, hheld, hdistinct, Call.plain_apply hplain h.plain, ?_⟩
  · dsimp only at hfile ⊢
    rw [hfile]
  · refine ConfigFile.load_of_parse? ?_ (hheld.parse?_fileText hdistinct)
    rw [hfiles]
    exact (ConfigFile.save_leaves hsave).2

theorem Keeps.list_eq (h : Keeps settings r s) : list settings s.1.data = r.entries :=
  h.held.list_eq settings h.distinct fun name hname => (h.plain name hname).no_dot

/-- **A row of calls.** -/
theorem Keeps.each {calls : List Call} (h : Keeps settings r s)
    (hplain : ∀ call ∈ calls, Plain call.name)
    (hcalls : Step.each (Call.perform settings) calls s = (.ok (), s')) :
    Keeps settings (calls.foldl Call.apply r) s' := by
  induction calls generalizing r s with
  | nil =>
    obtain ⟨-, rfl⟩ := Prod.mk.inj hcalls
    exact h
  | cons call rest ih =>
    obtain ⟨_, s₁, hcall, hrest⟩ := Step.bind_eq_ok hcalls
    exact ih (h.perform (hplain call List.mem_cons_self) hcall)
      (fun c hc => hplain c (List.mem_cons_of_mem call hc)) hrest

end

/-! ## 4. The register as an ordered map -/

theorem Call.find?_apply (r : Register) (call : Call) (name : String) :
    Fields.find? name (call.apply r) =
      if call.name = name then call.given else Fields.find? name r := by
  cases call with
  | register n url path =>
    by_cases hn : n = name
    · subst hn
      exact (Fields.find?_put_same n (url, path) r).trans (if_pos rfl).symm
    · exact (Fields.find?_put_other hn (url, path) r).trans (if_neg hn).symm
  | delete n =>
    by_cases hn : n = name
    · subst hn
      exact (Fields.find?_drop_same n r).trans (if_pos rfl).symm
    · exact (Fields.find?_drop_other hn r).trans (if_neg hn).symm

/-- What is registered under a name is what the last call on the name says. -/
theorem Register.find?_after (calls : List Call) (name : String) :
    Fields.find? name (Register.after calls) = (lastOn name calls).bind Call.given := by
  induction calls using List.reverseRecOn with
  | nil => rfl
  | append_singleton calls call ih =>
    unfold Register.after lastOn at ih ⊢
    rw [List.foldl_append, List.foldl_cons, List.foldl_nil, Call.find?_apply, List.filter_append]
    by_cases hn : call.name = name
    · rw [if_pos hn, List.filter_cons_of_pos (by simpa using hn), List.filter_nil,
        List.getLast?_concat]
      rfl
    · rw [if_neg hn, ih, List.filter_cons_of_neg (by simpa using hn), List.filter_nil,
        List.append_nil]

/-- What stands beside a name is not touched by a call on the name. -/
theorem Call.drop_apply (r : Register) (call : Call) :
    Fields.drop call.name (call.apply r) = Fields.drop call.name r := by
  cases call with
  | register name url path => exact Fields.drop_put name (url, path) r
  | delete name => exact Fields.drop_drop name r

theorem Register.entries_drop (r : Register) (name : String) :
    (entries r).filter (·.name != name) = entries (Fields.drop name r) := by
  unfold entries Fields.drop
  rw [List.filter_map]
  rfl

theorem Register.mem_entries {r : Register} (h : Fields.Distinct r) {e : Entry} :
    e ∈ entries r ↔ Fields.find? e.name r = some (e.url, e.path) := by
  unfold entries
  rw [List.mem_map]
  constructor
  · rintro ⟨⟨name, url, path⟩, hmem, rfl⟩
    exact Fields.find?_of_mem h hmem
  · intro hfind
    exact ⟨(e.name, e.url, e.path), Fields.mem_of_find? hfind, rfl⟩

theorem Call.given_eq_some {name url : String} {path : Path} {calls : List Call} :
    (lastOn name calls).bind Call.given = some (url, path) ↔
      lastOn name calls = some (.register name url path) := by
  constructor
  · intro h
    obtain ⟨call, hlast, hgiven⟩ := Option.bind_eq_some_iff.1 h
    have hname : call.name = name := by
      have hmem := List.mem_of_getLast? hlast
      simpa using (List.mem_filter.1 hmem).2
    cases call with
    | register n u p =>
      obtain ⟨rfl, rfl⟩ := Prod.mk.inj (Option.some.inj hgiven)
      rw [hlast, ← hname]
      rfl
    | delete n => exact absurd hgiven (by simp [given])
  · intro h
    rw [h]
    rfl

/-- **The register is an ordered map by name.** What is listed after calls that succeed is what the
calls make of an empty map: under each name what the last call on it registered, at the place where
the name was first put. A repository is where it is registered, and one more call changes nothing
that is listed under other names. -/
theorem list_after_calls (settings : Settings) (calls : List Call) (w w' : World) (c : ConfigFile)
    (hplain : ∀ call ∈ calls, Plain call.name)
    (hempty : (ConfigFile.global settings).load w.files = .ok .empty)
    (hrun : Step.each (Call.perform settings) calls (ConfigFile.global settings, w) =
      (.ok (), (c, w'))) :
    ∃ data, (ConfigFile.global settings).load w'.files = .ok data ∧
      list settings data = (Register.after calls).entries ∧
      (∀ e, e ∈ list settings data ↔
        lastOn e.name calls = some (.register e.name e.url e.path)) ∧
      (∀ e ∈ list settings data, location settings data e.name = e.path) ∧
      ∀ (call : Call) (c' : ConfigFile) (w'' : World), Plain call.name →
        call.perform settings ({ ConfigFile.global settings with data := data }, w') =
          (.ok (), (c', w'')) →
        (list settings c'.data).filter (·.name != call.name) =
          (list settings data).filter (·.name != call.name) ∧
        ∀ name, Plain name → name ≠ call.name →
          location settings c'.data name = location settings data name := by
  have hstart : Keeps settings [] (ConfigFile.global settings, w) :=
    ⟨rfl, Or.inl ⟨rfl, rfl⟩, List.nodup_nil, fun _ h => absurd h List.not_mem_nil, hempty⟩
  have hend : Keeps settings (Register.after calls) (c, w') := hstart.each hplain hrun
  have hload : (ConfigFile.global settings).load w'.files = .ok c.data := by
    rw [← hend.saved]
    exact (congrArg (·.load w'.files) hend.file).symm
  have hlist : list settings c.data = (Register.after calls).entries := hend.list_eq
  refine ⟨c.data, hload, hlist, fun e => ?_, fun e he => ?_, fun call c' w'' hcall hperform => ?_⟩
  · rw [hlist, Register.mem_entries hend.distinct, Register.find?_after, Call.given_eq_some]
  · rw [hlist, Register.mem_entries hend.distinct] at he
    have hname : Plain e.name := hend.plain e.name
      (List.mem_map.2 ⟨_, Fields.mem_of_find? he, rfl⟩)
    rw [hend.held.location_eq settings hname.no_dot, he]
    rfl
  · rw [← hend.file] at hperform
    have hnext := hend.perform hcall hperform
    refine ⟨?_, fun name hname hne => ?_⟩
    · rw [hnext.list_eq, hlist, Register.entries_drop, Register.entries_drop, Call.drop_apply]
    · rw [hnext.held.location_eq settings hname.no_dot, hend.held.location_eq settings hname.no_dot,
        Call.find?_apply, if_neg (Ne.symm hne)]

namespace Sample

def settings : Settings := .ofHome ⟨"home"⟩

/-- A world without files. -/
def world : World :=
  ⟨⟨[], []⟩, [], [], [], [], []⟩

/-- Calls that register a name again, the second one after a deletion. -/
def calls : List Call := [
  .register "default" "https://example.com/t.git" ⟨"home/.forge/templates/default"⟩,
  .register "acme" "git@example.com:acme.git" ⟨"/srv/acme"⟩,
  .register "site" "s" ⟨"s"⟩,
  .delete "acme",
  .register "default" "https://example.com/new.git" ⟨"elsewhere"⟩,
  .register "acme" "a" ⟨""⟩]

/-- What is left of a row of calls. -/
def left (calls : List Call) : Except Fault Unit × ConfigFile × World :=
  Step.each (Call.perform settings) calls (ConfigFile.global settings, world)

end Sample

/-- A name that is registered again keeps its place, one that was deleted comes last. -/
theorem list_after_calls_sample :
    (Sample.left Sample.calls).1 = .ok () ∧
    ∃ data,
      (ConfigFile.global Sample.settings).load (Sample.left Sample.calls).2.2.files = .ok data ∧
      list Sample.settings data = [
        ⟨"default", "https://example.com/new.git", ⟨"elsewhere"⟩⟩, ⟨"site", "s", ⟨"s"⟩⟩,
        ⟨"acme", "a", ⟨""⟩⟩] ∧
      location Sample.settings data "acme" = ⟨""⟩ := by
  have hrun : Sample.left Sample.calls =
      (.ok (), ((Sample.left Sample.calls).2.1, (Sample.left Sample.calls).2.2)) :=
    Step.eq_ok_of_toOption (by decide +kernel)
  have hplain : ∀ call ∈ Sample.calls, Plain call.name := by
    have hnames : ∀ call ∈ Sample.calls, call.name ≠ "" ∧ '.' ∉ call.name.toList := by decide
    exact fun call hcall => ⟨(hnames call hcall).1, (hnames call hcall).2⟩
  obtain ⟨data, hload, hlist, -, hpath, -⟩ := list_after_calls Sample.settings Sample.calls
    Sample.world _ _ hplain rfl hrun
  have hentries : (Register.after Sample.calls).entries = [
      ⟨"default", "https://example.com/new.git", ⟨"elsewhere"⟩⟩, ⟨"site", "s", ⟨"s"⟩⟩,
      ⟨"acme", "a", ⟨""⟩⟩] := by decide
  refine ⟨congrArg Prod.fst hrun, data, hload, hlist.trans hentries, ?_⟩
  exact hpath ⟨"acme", "a", ⟨""⟩⟩ (by rw [hlist, hentries]; simp)

/-- A name with a dot is registered below another one: it is not listed, and the url of the other
one is lost. -/
theorem dotted_name_takes_another :
    let before : List Call := [.register "acme" "u" ⟨"p"⟩]
    let calls := before ++ [.register "acme.url" "v" ⟨"q"⟩]
    (Sample.left before).1 = .ok () ∧ (Sample.left calls).1 = .ok () ∧
    ((ConfigFile.global Sample.settings).load (Sample.left before).2.2.files).toOption.map
      (list Sample.settings) = some [⟨"acme", "u", ⟨"p"⟩⟩] ∧
    ((ConfigFile.global Sample.settings).load (Sample.left calls).2.2.files).toOption.map
      (list Sample.settings) = some [⟨"acme", "", ⟨"p"⟩⟩] := by
  refine ⟨?_, ?_, by decide +kernel, by decide +kernel⟩
  · exact congrArg Prod.fst
      (Step.eq_ok_of_toOption (r := Sample.left _) (a := ()) (by decide +kernel))
  · exact congrArg Prod.fst
      (Step.eq_ok_of_toOption (r := Sample.left _) (a := ()) (by decide +kernel))

end Repository

end Stencil
