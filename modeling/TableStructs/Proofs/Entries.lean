import Mathlib.Data.List.Induction
import TableStructs.Report

/-!
The structs that a check has recorded. `record` keeps the place of a name and replaces what is
known of it. Of entries recorded one after the other (`recorded`), the names stand in the order in
which they first came up, each of them once (`map_struct_recorded`), and what is found under a name is
the last entry that has it (`find?_recorded`).
-/
namespace TableStructs.Report

/-! ### Names, each of them once -/

theorem eraseDups_concat (names : List Text) (name : Text) :
    (names ++ [name]).eraseDups =
      if name ∈ names then names.eraseDups else names.eraseDups ++ [name] := by
  rw [List.eraseDups_append, List.cons_removeAll]
  by_cases h : name ∈ names
  · simp [h]
  · simp [h, List.eraseDups_cons]

theorem nodup_eraseDups (names : List Text) : names.eraseDups.Nodup := by
  induction names using List.reverseRecOn with
  | nil => exact List.nodup_nil
  | append_singleton names name ih =>
    rw [eraseDups_concat]
    split
    · exact ih
    · next h =>
      refine List.nodup_append.2 ⟨ih, List.pairwise_singleton _ _, fun a ha b hb => ?_⟩
      rintro rfl
      exact h (List.mem_eraseDups.1 (List.mem_singleton.1 hb ▸ ha))

/-! ### Recording -/

theorem map_struct_record (e : Entry) (es : List Entry) :
    (record e es).map (·.struct) =
      if e.struct ∈ es.map (·.struct) then es.map (·.struct) else es.map (·.struct) ++ [e.struct] := by
  induction es with
  | nil => simp [record]
  | cons d rest ih =>
    by_cases h : d.struct = e.struct
    · simp [record, h]
    · rw [record, if_neg h, List.map_cons, ih]
      have hd : (e.struct = d.struct) = False := eq_false (Ne.symm h)
      simp only [List.map_cons, List.mem_cons, hd, false_or]
      split <;> rfl

theorem find?_record (e : Entry) (es : List Entry) (name : Text) :
    (record e es).find? (·.struct = name) =
      if e.struct = name then some e else es.find? (·.struct = name) := by
  induction es with
  | nil => by_cases h : e.struct = name <;> simp [record, h]
  | cons d rest ih =>
    by_cases hd : d.struct = e.struct
    · by_cases h : e.struct = name <;> simp [record, hd, h]
    · rw [record, if_neg hd, List.find?_cons, ih, List.find?_cons]
      by_cases h : e.struct = name
      · have : ¬ d.struct = name := fun h' => hd (h'.trans h.symm)
        simp [h, this]
      · simp [h]

/-- An entry with a new name comes last. -/
theorem record_of_not_mem {e : Entry} {es : List Entry} (h : e.struct ∉ es.map (·.struct)) :
    record e es = es ++ [e] := by
  induction es with
  | nil => rfl
  | cons d rest ih =>
    rw [List.map_cons, List.mem_cons, not_or] at h
    rw [record, if_neg (Ne.symm h.1), ih h.2, List.cons_append]

/-- Entries recorded one after the other. -/
def recorded (es : List Entry) : List Entry := es.foldl (fun found e => record e found) []

theorem recorded_concat (es : List Entry) (e : Entry) : recorded (es ++ [e]) = record e (recorded es) := by
  simp [recorded]

/-- Names stand in the order in which they first came up. -/
theorem map_struct_recorded (es : List Entry) :
    (recorded es).map (·.struct) = (es.map (·.struct)).eraseDups := by
  induction es using List.reverseRecOn with
  | nil => rfl
  | append_singleton es e ih =>
    rw [recorded_concat, map_struct_record, ih, List.map_append, List.map_singleton, eraseDups_concat]
    simp only [List.mem_eraseDups]

/-- Under a name stands the last entry of that name. -/
theorem find?_recorded (es : List Entry) (name : Text) :
    (recorded es).find? (·.struct = name) = es.reverse.find? (·.struct = name) := by
  induction es using List.reverseRecOn with
  | nil => rfl
  | append_singleton es e ih =>
    rw [recorded_concat, find?_record, ih, List.reverse_append, List.reverse_singleton,
      List.singleton_append, List.find?_cons]
    by_cases h : e.struct = name <;> simp [h]

/-- If no name comes up twice, all entries stay. -/
theorem recorded_of_nodup {es : List Entry} (h : (es.map (·.struct)).Nodup) : recorded es = es := by
  induction es using List.reverseRecOn with
  | nil => rfl
  | append_singleton es e ih =>
    rw [List.map_append, List.nodup_append] at h
    have hnew : e.struct ∉ es.map (·.struct) := fun hmem => h.2.2 _ hmem _ List.mem_cons_self rfl
    rw [recorded_concat, ih h.1, record_of_not_mem hnew]

namespace Entry

/-- The entry of a struct. -/
def ofStruct (t : Struct) : Entry := ⟨t.name, t.fields.length, t.table⟩

/-- The entries of structs that are recorded one after the other. -/
def ofStructs (structs : List Struct) : List Entry :=
  structs.foldl (fun es t => record (ofStruct t) es) []

theorem ofStructs_eq (structs : List Struct) : ofStructs structs = recorded (structs.map ofStruct) := by
  rw [recorded, List.foldl_map, ofStructs]

theorem ofStructs_concat (structs : List Struct) (t : Struct) :
    ofStructs (structs ++ [t]) = record (ofStruct t) (ofStructs structs) := by
  simp [ofStructs]

theorem map_struct_ofStructs (structs : List Struct) :
    (ofStructs structs).map (·.struct) = (structs.map (·.name)).eraseDups := by
  rw [ofStructs_eq, map_struct_recorded, List.map_map]
  rfl

theorem find?_ofStructs (structs : List Struct) (name : Text) :
    (ofStructs structs).find? (·.struct = name) =
      (structs.reverse.find? (·.name = name)).map ofStruct := by
  rw [ofStructs_eq, find?_recorded, ← List.map_reverse, List.find?_map]
  rfl

end Entry

theorem lookup_structs (r : Report) (name : Text) :
    r.structs.lookup name = (r.entries.find? (·.struct = name)).map (·.columns) := by
  unfold structs
  induction r.entries with
  | nil => rfl
  | cons e rest ih =>
    rw [List.map_cons, List.lookup_cons, List.find?_cons, ih]
    by_cases h : e.struct = name
    · simp [h]
    · have : (name == e.struct) = false := by simpa using Ne.symm h
      simp [h, this]

end TableStructs.Report
