import Stencil.Proofs.Directive.Adopt
import Stencil.Proofs.Script.Spared
import Stencil.Proofs.Sorted
import Stencil.Proofs.Store.Lens
import Stencil.Proofs.Store.Replaced

/-!
# Data that a script leaves alone

The data of a session goes through every script: it is handed over by key and taken back at the end,
whether the script has touched it or not. At the top the keys find their old places again, since
`Store.replaceOrdered` goes by the old keys. Below the top nothing does so: a map that is not in the
order of its keys comes back reordered (`perform_untouched`). The places of values are the same all the
same, and data whose inner maps are in order comes back as it was.

That a script leaves the data is said of its end (`LeavesData`). Of a script that nowhere writes a
variable `data` it is true (`leavesData_of_sparing`).
-/

set_option autoImplicit false

namespace Stencil

/-! ## 1. Taking data back -/

/-- Every path of the store leads to what it led to, as a script gives it back. -/
theorem Store.get?_mapValues_sorted {s : Store} (h : s.toValue.Distinct) (path : String) :
    Store.get? ⟨Fields.mapValues Value.sorted s.fields⟩ path = (s.get? path).map Value.sorted := by
  obtain ⟨hkeys, hmembers⟩ := Value.distinct_map_iff.1 h
  unfold Store.get? Store.toValue
  cases hp : segments path with
  | nil => exact absurd hp (segments_ne_nil path)
  | cons t rest =>
    rw [Value.at?, Value.at?]
    show (Fields.find? t (Fields.mapValues Value.sorted s.fields)).bind _ =
      ((Fields.find? t s.fields).bind _).map _
    rw [Fields.find?_mapValues]
    cases hfound : Fields.find? t s.fields with
    | none => rfl
    | some v => exact Value.at?_sorted (hmembers (t, v) (Fields.mem_of_find? hfound)) rest

namespace ExecuteDirective

/-! ## 2. Scripts that leave the data -/

/-- The script of a directive, if it comes to its end, ends with the data that it was given. -/
def LeavesData (d : ExecuteDirective) (services : Services) (r : Run) : Prop :=
  ∀ path result, d.Names services r path → reply? services r path = some result →
    result.data = .value (input r.session).data

theorem fields_of_leavesData {d : ExecuteDirective} {services : Services} {r r' : Run}
    (h : d.perform services r = (.ok (), r')) (hleaves : d.LeavesData services r)
    (hdistinct : Fields.Distinct r.session.data.fields) :
    r'.session.data = ⟨Fields.mapValues Value.sorted r.session.data.fields⟩ := by
  rcases d.perform_cases services r with ⟨e, hfails⟩ | ⟨path, result, hnames, hreply, hadopts⟩
  · rw [hfails] at h
    exact absurd (Prod.mk.inj h).1 (by simp)
  · have hdata : dataAfter r.session result.data =
        some ⟨Fields.mapValues Value.sorted r.session.data.fields⟩ := by
      rw [hleaves path result hnames hreply, input, Store.toValue, Value.sorted_map]
      exact congrArg some (Store.replaceOrdered_of_perm (Fields.sorted_perm _)
        (Fields.keys_mapValues _ _) (hdistinct.mapValues Value.sorted))
    rw [hadopts, adopt_apply, hdata] at h
    cases hmessages : messagesAfter r.session result.messages with
    | none =>
      rw [hmessages] at h
      exact absurd (Prod.mk.inj h).1 (by simp)
    | some messages =>
      rw [hmessages] at h
      rw [← (Prod.mk.inj h).2]

/-- A script that never assigns to `data`, nor makes a variable of that name, leaves the data. -/
theorem leavesData_of_sparing {d : ExecuteDirective} {services : Services} {r : Run}
    (hscripts : services.scripts = Script.run)
    (hsparing : ∀ path content p, d.Names services r path → r.world.files.read? path = some content →
      Script.prepared? (Text.decodeLossy content) = some p →
      Script.isBlockSparing "data" p.statements)
    (hcarried : r.session.data.toValue.Carried) (hdistinct : r.session.data.toValue.Distinct) :
    d.LeavesData services r := by
  intro path result hnames hreply
  obtain ⟨content, hread, hrun⟩ := Option.bind_eq_some_iff.1 hreply
  rw [hscripts] at hrun
  exact Script.run_data_of_sparing hrun (hsparing path content · hnames hread) hcarried.sorted
    (Script.Datum.regular_ofValue_sorted hcarried hdistinct)

/-- **A script that leaves the data alone changes at most the order of keys below the top.** The keys of
the data are where they were, every path leads to the value that it led to, its maps by key, and the
data is the same exactly if each of its values has had its maps in that order before. -/
theorem perform_untouched {d : ExecuteDirective} {services : Services} {r r' : Run}
    (h : d.perform services r = (.ok (), r')) (hleaves : d.LeavesData services r)
    (hdistinct : r.session.data.toValue.Distinct) :
    r'.session.data.keys = r.session.data.keys ∧
      (∀ path, r'.session.data.get? path = (r.session.data.get? path).map Value.sorted) ∧
      (r'.session.data = r.session.data ↔ ∀ e ∈ r.session.data.fields, e.2.InOrder) := by
  have hdata := fields_of_leavesData h hleaves (Value.distinct_map_iff.1 hdistinct).1
  rw [hdata]
  refine ⟨Fields.keys_mapValues _ _, Store.get?_mapValues_sorted hdistinct, ?_⟩
  rw [show r.session.data = ⟨r.session.data.fields⟩ from rfl, Store.mk.injEq,
    Fields.mapValues_eq_self_iff]
  exact forall₂_congr fun e _ => Value.sorted_eq_self_iff

namespace Sample

/-- Data with a map in it, by keys that do not ascend at the top. -/
def withInner (inner : Fields Value) : Fields Value :=
  [("name", .str "x"), ("m", .map inner)]

theorem sorted_withInner {inner given : Fields Value} (h : (Value.map inner).sorted = .map given) :
    (Value.map (withInner inner)).sorted = .map [("m", .map given), ("name", .str "x")] := by
  rw [Value.sorted_map]
  have hdistinct : ["m", "name"].Nodup := by decide
  have hkeys : ["m", "name"].Pairwise (· ≤ ·) := by decide
  refine congrArg Value.map (Fields.sorted_eq_of_perm ?_ hdistinct hkeys)
  show List.Perm [("name", Value.str "x"), ("m", (Value.map inner).sorted)] _
  rw [h]
  exact List.Perm.swap _ _ []

theorem distinct_inner {k l : String} (h : [k, l].Nodup) (i j : Int) :
    (Value.map [(k, .int i), (l, .int j)]).Distinct := by
  refine .map h fun e he => .scalar ?_
  rcases List.mem_pair.1 he with rfl | rfl
  · rfl
  · rfl

theorem carried_inner (k l : String) {i j : Int} (hi : (Value.int i).Carried)
    (hj : (Value.int j).Carried) : (Value.map [(k, .int i), (l, .int j)]).Carried := by
  refine .map fun e he => ?_
  rcases List.mem_pair.1 he with rfl | rfl
  · exact hi
  · exact hj

theorem distinct_withInner {inner : Fields Value} (h : (Value.map inner).Distinct) :
    (Value.map (withInner inner)).Distinct := by
  refine .map (show ["name", "m"].Nodup by decide) fun e he => ?_
  rcases List.mem_pair.1 he with rfl | rfl
  · exact .scalar rfl
  · exact h

theorem carried_withInner {inner : Fields Value} (h : (Value.map inner).Carried) :
    (Value.map (withInner inner)).Carried := by
  refine .map fun e he => ?_
  rcases List.mem_pair.1 he with rfl | rfl
  · exact .str "x"
  · exact h

/-- A script that never writes `data`, and how the directive ends. -/
theorem leavesData_withInner {inner given : Fields Value} (script : String)
    (hcarried : (Value.map inner).Carried) (hdistinct : (Value.map inner).Distinct)
    (hgiven : (Value.map inner).sorted = .map given)
    (htext : (Render.text (services.context (run (withInner inner) script)) "s.rhai").toOption =
      some "s.rhai")
    (hthere : (run (withInner inner) script).world.files.exists ⟨"t/s.rhai"⟩)
    (hsparing : (((run (withInner inner) script).world.files.read? ⟨"t/s.rhai"⟩).bind fun content =>
      Script.prepared? (Text.decodeLossy content)).all fun p =>
        Script.isBlockSparing "data" p.statements)
    (hreply : (((run (withInner inner) script).world.files.read? ⟨"t/s.rhai"⟩).bind fun content =>
      Script.run
        (fun name => (run (withInner inner) script).world.files.exists
          (Path.joinText ⟨"work"⟩ name))
        ⟨.map [("m", .map given), ("name", .str "x")], "t", "work", "work"⟩
        (Text.decodeLossy content)).any (fun result =>
          (messagesAfter (run [] "").session result.messages).isSome) = true) :
    directive.LeavesData services (run (withInner inner) script) ∧
      ∃ r', directive.perform services (run (withInner inner) script) = (.ok (), r') := by
  have hdata := sorted_withInner hgiven
  have hleaves : directive.LeavesData services (run (withInner inner) script) := by
    refine leavesData_of_sparing rfl (fun path content p hnames hread hprepared => ?_)
      (carried_withInner hcarried) (distinct_withInner hdistinct)
    obtain rfl := hnames.eq (names_directive htext)
    rw [hread, Option.bind_some, hprepared] at hsparing
    exact hsparing
  obtain ⟨result, hresult, hmessages, hrun⟩ := perform_run _ script hdata htext hthere hreply
  obtain ⟨messages, hafter⟩ := Option.isSome_iff_exists.1 hmessages
  have hafter' : messagesAfter (run (withInner inner) script).session result.messages =
      some messages := hafter
  have hleft : result.data = .value (.map [("m", .map given), ("name", .str "x")]) := by
    rw [hleaves _ result (names_directive htext) hresult]
    exact congrArg Leftover.value hdata
  rw [adopt_apply, hafter', hleft] at hrun
  exact ⟨hleaves, _, hrun⟩

end Sample

/-- A script that reads the data and pushes a message, with an inner map that is in order. -/
theorem perform_untouched_sample :
    ∃ r', Sample.directive.perform Sample.services
          (Sample.run (Sample.withInner [("a", .int 1), ("b", .int 2)])
            "messages.push(data.name);") = (.ok (), r') ∧
      r'.session.data = ⟨Sample.withInner [("a", .int 1), ("b", .int 2)]⟩ := by
  have hinner : (Value.map [("a", .int 1), ("b", .int 2)]).InOrder :=
    .map (by decide) fun e he => .scalar (by
      rcases List.mem_pair.1 he with rfl | rfl <;> rfl)
  have hdistinct := Sample.distinct_inner (show ["a", "b"].Nodup by decide) 1 2
  obtain ⟨hleaves, r', hrun⟩ := Sample.leavesData_withInner "messages.push(data.name);"
    (Sample.carried_inner "a" "b" (.int (by decide) (by decide)) (.int (by decide) (by decide)))
    hdistinct (Value.sorted_eq_self_iff.2 hinner) (by decide +kernel)
    (by decide) (by decide +kernel) (by decide +kernel)
  refine ⟨r', hrun, (perform_untouched hrun hleaves
    (Sample.distinct_withInner hdistinct)).2.2.2 fun e he => ?_⟩
  rcases List.mem_pair.1 he with rfl | rfl
  · exact .scalar rfl
  · exact hinner

/-- A script without a statement reorders a map that is not in order. -/
theorem empty_script_reorders :
    ∃ r', Sample.directive.LeavesData Sample.services
        (Sample.run (Sample.withInner [("b", .int 1), ("a", .int 2)]) "") ∧
      Sample.directive.perform Sample.services
          (Sample.run (Sample.withInner [("b", .int 1), ("a", .int 2)]) "") = (.ok (), r') ∧
      r'.session.data = ⟨Sample.withInner [("a", .int 2), ("b", .int 1)]⟩ ∧
      r'.session.data ≠ ⟨Sample.withInner [("b", .int 1), ("a", .int 2)]⟩ := by
  have hinner : (Value.map [("b", .int 1), ("a", .int 2)]).sorted =
      .map [("a", .int 2), ("b", .int 1)] := by
    rw [Value.sorted_map]
    exact congrArg Value.map (Fields.sorted_eq_of_perm (List.Perm.swap _ _ [])
      (show ["a", "b"].Nodup by decide) (show ["a", "b"].Pairwise (· ≤ ·) by decide))
  obtain ⟨hleaves, r', hrun⟩ := Sample.leavesData_withInner ""
    (Sample.carried_inner "b" "a" (.int (by decide) (by decide)) (.int (by decide) (by decide)))
    (Sample.distinct_inner (by decide) 1 2) hinner (by decide +kernel) (by decide)
    (by decide) (by decide)
  have hdata : r'.session.data = ⟨Sample.withInner [("a", .int 2), ("b", .int 1)]⟩ := by
    rw [fields_of_leavesData hrun hleaves (show ["name", "m"].Nodup by decide)]
    show Store.mk [("name", .str "x"), ("m", (Value.map _).sorted)] = _
    rw [hinner]
    rfl
  refine ⟨r', hleaves, hrun, hdata, ?_⟩
  rw [hdata]
  simp [Sample.withInner]

end ExecuteDirective

end Stencil
