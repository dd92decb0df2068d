import Mathlib.Data.List.TakeWhile
import Stencil.Config.File
import Stencil.Proofs.Files.Dirs
import Stencil.Proofs.Json.RoundTrip
import Stencil.Proofs.Text.Bytes

/-!
# A configuration file gives back what was saved

Two readings of `save` meet here. For the tree it is a write: when it has ended well, the path leads
to a file with the text of the data, in a directory that is there (`save_leaves`). For the text it
is one side of a round trip: the text is UTF-8 and not blank, and it is read as the data that it was
made of (`parse?_fileText`), unless they are nested too deep to be read at all (`parse?_too_deep`).

Saving what was read finds the directory and the file in place, so it ends well again and writes
what is there already (`save_of_present`).
-/

set_option autoImplicit false

namespace Stencil

namespace Unicode

/-- A text that starts with a character to be seen is not blank. -/
theorem trim_ne_nil {c : Char} (hc : isBlank c = false) (cs : List Char) : trim (c :: cs) ≠ [] := by
  intro hnil
  unfold trim Text.trim at hnil
  rw [List.dropWhile_cons_of_neg (by simp [hc]), List.reverse_eq_nil_iff,
    List.dropWhile_eq_nil_iff] at hnil
  rw [hnil c (by simp)] at hc
  exact absurd hc (by simp)

end Unicode

namespace ConfigFile

variable {c : ConfigFile} {data : Store} {w w' : World}

/-! ## 1. The text -/

theorem fileText_toList (data : Store) :
    (fileText data).toList = Json.pretty 0 data.toValue ++ ['\n'] := by
  unfold fileText
  rw [String.toList_ofList]

theorem head_fileText (data : Store) : ∃ cs, (fileText data).toList = '\x7b' :: cs := by
  rw [fileText_toList, Store.toValue]
  cases data.fields with
  | nil => exact ⟨_, rfl⟩
  | cons e fields => exact ⟨_, rfl⟩

theorem fileText_not_blank (data : Store) :
    ¬ (Unicode.trim (fileText data).toList).isEmpty = true := by
  obtain ⟨cs, hcs⟩ := head_fileText data
  rw [hcs, List.isEmpty_iff]
  exact Unicode.trim_ne_nil rfl cs

theorem read?_fileText (data : Store) :
    Json.read? (fileText data) = Json.readChars? (Json.pretty 0 data.toValue ++ ['\n']) := by
  rw [Json.read?, fileText_toList]

theorem parse?_fileText (hwhole : data.toValue.isWhole = true) (hdepth : data.toValue.depth ≤ 127) :
    parse? (fileText data) = some data := by
  unfold parse?
  rw [if_neg (fileText_not_blank data), read?_fileText, Json.readChars?_pretty hwhole hdepth]
  rfl

theorem parse?_too_deep (hdepth : 127 < data.toValue.depth) : parse? (fileText data) = none := by
  unfold parse?
  rw [if_neg (fileText_not_blank data), read?_fileText, Json.readChars?_too_deep hdepth]

/-! ## 2. The file -/

/-- A save that has ended well leaves the file, and a directory for it. -/
theorem save_leaves (h : c.save w = (.ok (), w')) :
    (c.dir.text = "" ∨ w'.files.isDir c.dir) ∧
      w'.files.read? c.path = some (fileText c.data).toUTF8 := by
  obtain ⟨_, w₁, hdirs, hwrite⟩ := Step.bind_eq_ok h
  have hdirs : w.files.makeDirs c.dir = (true, w₁.files) := World.onFiles_attempt hdirs
  have hwrite : w₁.files.write c.path (fileText c.data).toUTF8 = (true, w'.files) :=
    World.onFiles_attempt hwrite
  refine ⟨?_, FileTree.read?_of_write hwrite⟩
  exact (FileTree.isDir_of_makeDirs hdirs).imp_right (FileTree.extends_of_write hwrite).isDir

/-- Where the file and its directory are, a save ends well. -/
theorem save_of_present (hdir : c.dir.text = "" ∨ w.files.isDir c.dir)
    (hfile : w.files.isFile c.path) :
    ∃ w', c.save w = (.ok (), w') ∧ w'.files.read? c.path = some (fileText c.data).toUTF8 := by
  obtain ⟨t, hwrite⟩ := FileTree.write_of_isFile hfile (fileText c.data).toUTF8
  have hdirs : World.makeDirs c.dir (.configWrite c.path) w = (.ok (), w) :=
    World.onFiles_of_true (FileTree.makeDirs_of_isDir hdir)
  refine ⟨{ w with files := t }, ?_, FileTree.read?_of_write hwrite⟩
  unfold save
  rw [Step.bind_of_ok hdirs]
  exact World.onFiles_of_true hwrite

theorem isPresent_of_read? {files : FileTree}
    (h : files.read? c.path = some (fileText data).toUTF8) : c.isPresent files = true := by
  obtain ⟨cs, hcs⟩ := head_fileText data
  have hne : (fileText data).utf8ByteSize ≠ 0 := by
    rw [Ne, String.utf8ByteSize_eq_zero_iff, ← String.toList_eq_nil_iff, hcs]
    exact List.cons_ne_nil _ _
  unfold isPresent
  rw [h]
  exact bne_iff_ne.2 hne

/-- A file with the text of a store is loaded as that text is parsed. -/
theorem load_of_read? {files : FileTree} (h : files.read? c.path = some (fileText data).toUTF8) :
    c.load files = (parse? (fileText data)).elim (.error (.configParse c.path)) .ok := by
  unfold load
  rw [h]
  dsimp only
  rw [Text.fromUTF8?_eq_some_iff.2 rfl]
  dsimp only
  cases parse? (fileText data) with
  | none => rfl
  | some held => rfl

theorem load_of_parse? {files : FileTree} (h : files.read? c.path = some (fileText data).toUTF8)
    {held : Store} (hparse : parse? (fileText data) = some held) : c.load files = .ok held := by
  rw [load_of_read? h, hparse, Option.elim_some]

theorem load_of_parse?_none {files : FileTree}
    (h : files.read? c.path = some (fileText data).toUTF8)
    (hparse : parse? (fileText data) = none) : c.load files = .error (.configParse c.path) := by
  rw [load_of_read? h, hparse, Option.elim_none]

/-- A saved file is there; it is read as the store that was saved, in all its parts and in their
order, and saving that again ends well with the same bytes. A store that is nested too deep is
reported as no configuration. -/
theorem reload_save {fresh : ConfigFile} (hdir : fresh.dir = c.dir)
    (hname : fresh.fileName = c.fileName) (hsave : c.save w = (.ok (), w')) :
    fresh.isPresent w'.files = true ∧
    (c.data.toValue.isWhole = true → c.data.toValue.depth ≤ 127 →
      reload w'.files fresh = (.ok (), { fresh with data := c.data }) ∧
      ∃ w'', save { fresh with data := c.data } w' = (.ok (), w'') ∧
        w''.files.read? fresh.path = w'.files.read? fresh.path) ∧
    (127 < c.data.toValue.depth →
      reload w'.files fresh =
        (.error (.configParse fresh.path), { fresh with data := .empty })) := by
  have hpath : fresh.path = c.path := by
    unfold path
    rw [hdir, hname]
  have hsame : { fresh with data := c.data } = c := by
    rw [hdir, hname]
  obtain ⟨hthere, hread⟩ := save_leaves hsave
  have hfresh : w'.files.read? fresh.path = some (fileText c.data).toUTF8 := by
    rw [hpath, hread]
  -- all three parts are about the one text that the save has left
  refine ⟨isPresent_of_read? hfresh, fun hwhole hdepth => ⟨?_, ?_⟩, fun hdepth => ?_⟩
  · unfold reload
    rw [load_of_parse? hfresh (parse?_fileText hwhole hdepth)]
  · have hfile : w'.files.isFile c.path := by
      unfold FileTree.isFile
      rw [hread]
      rfl
    obtain ⟨w'', hagain, hsame_bytes⟩ := save_of_present hthere hfile
    refine ⟨w'', hsame ▸ hagain, ?_⟩
    rw [hpath, hsame_bytes, hread]
  · unfold reload
    rw [load_of_parse?_none hfresh (parse?_too_deep hdepth)]

namespace Sample

/-- Empty keys and texts, characters that are escaped and characters that are not, the first and the
last of the integers, and keys in another order than the alphabet's. -/
def store : Store :=
  ⟨[("zeta", .str "say \"hi\" \\ or\n\tnot\x01\x7f"), ("", .str ""),
    ("α 漢 😀", .list [.int (-9223372036854775808), .int 18446744073709551615, .int 0, .null,
      .bool true]),
    ("a.b", .map [("b", .list []), ("a", .map [])])]⟩

/-- Lists within each other. -/
def nested : Nat → Value
  | 0 => .null
  | n + 1 => .list [nested n]

/-- One level more than is read. -/
def deepStore : Store :=
  ⟨[("deep", nested 127)]⟩

def fresh : ConfigFile :=
  ⟨⟨"does/not/exist"⟩, ".forge.json", .empty⟩

def file : ConfigFile :=
  { fresh with data := store }

def deepFile : ConfigFile :=
  { fresh with data := deepStore }

def world : World :=
  ⟨⟨[], []⟩, [], [], [], [], []⟩

end Sample

open Sample in
theorem reload_save_sample :
    (file.save world).1 = .ok () ∧
      reload (file.save world).2.files fresh = (.ok (), file) ∧
    (deepFile.save world).1 = .ok () ∧
      reload (deepFile.save world).2.files fresh =
        (.error (.configParse ⟨"does/not/exist/.forge.json"⟩), fresh) := by
  have hsaved : file.save world = (.ok (), (file.save world).2) :=
    Step.eq_ok_of_toOption (by decide +kernel)
  have hdeep : deepFile.save world = (.ok (), (deepFile.save world).2) :=
    Step.eq_ok_of_toOption (by decide +kernel)
  have hpath : fresh.path = ⟨"does/not/exist/.forge.json"⟩ := by decide
  have hdir : fresh.dir = file.dir := rfl
  have hdeepDir : fresh.dir = deepFile.dir := rfl
  refine ⟨congrArg Prod.fst hsaved, ?_, congrArg Prod.fst hdeep, ?_⟩
  · exact ((reload_save hdir rfl hsaved).2.1 (by decide) (by decide)).1
  · rw [← hpath]
    exact (reload_save hdeepDir rfl hdeep).2.2 (by decide +kernel)

end ConfigFile

end Stencil
