import ComponentDocs.Proofs.Findings
import Mathlib.Data.List.Dedup

/-!
What a document holds after any run of additions.

Shapes and default values treat a repeated name in opposite ways: a shape moves
to the end, a default value stays where its key came in first. For both the last
one counts. The order of the shapes is the one that `List.dedup` gives to the
names of all shapes that were added, since it keeps the last occurrence of each;
the order of the default values is that of `List.eraseDups`, which keeps the
first one.
-/

namespace ComponentDocs

/-- The diagnostic that a finding adds. -/
def Finding.problem? : Finding → Option Diagnostic
  | .problem value => some value
  | _ => none

/-- A key at the end is the one that stays. -/
theorem dedup_concat {κ : Type} [DecidableEq κ] (keys : List κ) (key : κ) :
    (keys ++ [key]).dedup = keys.dedup.erase key ++ [key] := by
  induction keys with
  | nil => rfl
  | cons first rest ih =>
      rw [List.cons_append]
      by_cases hrest : first ∈ rest
      · rw [List.dedup_cons_of_mem (List.mem_append_left _ hrest),
          List.dedup_cons_of_mem hrest, ih]
      · by_cases hkey : first = key
        · subst hkey
          have hnone : first ∉ rest.dedup := fun hmem =>
            hrest (List.mem_dedup.mp hmem)
          rw [List.dedup_cons_of_mem (by simp), ih,
            List.dedup_cons_of_notMem hrest, List.erase_cons_head,
            List.erase_of_not_mem hnone]
        · have hnone : first ∉ rest ++ [key] := by simp [hrest, hkey]
          rw [List.dedup_cons_of_notMem hnone, ih,
            List.dedup_cons_of_notMem hrest,
            List.erase_cons_tail (by simpa using hkey), List.cons_append]

namespace RawDocument

/-! ### One addition -/

theorem names_insertShape (document : RawDocument) (value : PropShape) :
    (document.insertShape value).shapes.map PropShape.name =
      (document.shapes.map PropShape.name).erase value.name ++ [value.name] := by
  simp only [insertShape, List.map_append, List.map_singleton]
  congr 1
  induction document.shapes with
  | nil => rfl
  | cons first rest ih =>
      by_cases hfirst : first.name = value.name
      · simp [hfirst]
      · rw [List.eraseP_cons_of_neg (by simpa using hfirst), List.map_cons, ih,
          List.map_cons, List.erase_cons_tail (by simpa using hfirst)]

/-- What a finding does not add to stays as it is. -/
theorem add_frame (document : RawDocument) (finding : Finding) :
    (finding.component? = none →
      (document.add finding).components = document.components) ∧
    (finding.shape? = none →
      (document.add finding).shapes = document.shapes) ∧
    (finding.defaults? = none →
      (document.add finding).defaults = document.defaults) ∧
    (finding.problem? = none →
      (document.add finding).diagnostics = document.diagnostics) := by
  cases finding <;> simp [add, addComponent, insertShape, mergeDefaults, report,
    Finding.component?, Finding.shape?, Finding.defaults?, Finding.problem?]

/-! ### All additions -/

theorem diagnostics_ofFindings (findings : List Finding) :
    (ofFindings findings).diagnostics =
      findings.filterMap Finding.problem? := by
  induction findings using List.reverseRecOn with
  | nil => rfl
  | append_singleton findings finding ih =>
      rw [ofFindings_concat, List.filterMap_append, ← ih]
      cases finding <;> simp [add, addComponent, insertShape, mergeDefaults,
        report, Finding.problem?]

/-- The shapes stand in the order of their last additions. -/
theorem shape_names_ofFindings (findings : List Finding) :
    (ofFindings findings).shapes.map PropShape.name =
      ((findings.filterMap Finding.shape?).map PropShape.name).dedup := by
  induction findings using List.reverseRecOn with
  | nil => rfl
  | append_singleton findings finding ih =>
      rw [ofFindings_concat, List.filterMap_append, List.map_append]
      cases hshape : finding.shape? with
      | none =>
          rw [shapes_add_of_shape?_eq_none hshape, ih]
          simp [hshape]
      | some value =>
          rw [add_of_shape?_eq_some hshape, names_insertShape, ih, ← dedup_concat]
          simp [hshape]

/-- Where no two shapes have the same name, each one is found under its name. -/
theorem mem_shapes_iff {document : RawDocument}
    (hdistinct : document.DistinctShapes) (shape : PropShape) :
    shape ∈ document.shapes ↔ document.shape? shape.name = some shape := by
  constructor
  · intro hmem
    cases hfound : document.shape? shape.name with
    | none => simpa using List.find?_eq_none.mp hfound shape hmem
    | some other =>
        have hother : other ∈ document.shapes := List.mem_of_find?_eq_some hfound
        have hname : other.name = shape.name := by
          simpa using List.find?_some hfound
        rw [List.inj_on_of_nodup_map hdistinct hother hmem hname]
  · exact List.mem_of_find?_eq_some

end RawDocument

/--
What a document holds after any sequence of additions to the empty one.
Components and diagnostics are those that were added, in order. No two shapes
have the same name; each name has the shape that was added last under it, and
the shapes stand in the order of these last additions. Each key of a default
value is listed once, where it came in first, with its last value. And no
addition changes a part that it does not belong to.
-/
theorem document_parts_after_any_run (steps : List Finding) :
    let document := RawDocument.ofFindings steps
    let inserted := steps.filterMap Finding.shape?
    let merged := (steps.filterMap Finding.defaults?).flatMap OrderedMap.entries
    document.components = steps.filterMap Finding.component? ∧
    document.diagnostics = steps.filterMap Finding.problem? ∧
    ((document.shapes.map PropShape.name).Nodup ∧
      (∀ name, document.shape? name =
        inserted.reverse.find? (fun shape => shape.name = name)) ∧
      (∀ shape, shape ∈ document.shapes ↔
        inserted.reverse.find? (fun other => other.name = shape.name) =
          some shape) ∧
      document.shapes.map PropShape.name =
        (inserted.map PropShape.name).dedup) ∧
    (document.defaults.keys.Nodup ∧
      document.defaults.keys = (merged.map Prod.fst).eraseDups ∧
      ∀ key, document.defaults.get? key =
        (merged.reverse.find? (fun entry => entry.1 = key)).map Prod.snd) ∧
    ∀ (other : RawDocument) (step : Finding),
      (step.component? = none →
        (other.add step).components = other.components) ∧
      (step.shape? = none → (other.add step).shapes = other.shapes) ∧
      (step.defaults? = none → (other.add step).defaults = other.defaults) ∧
      (step.problem? = none →
        (other.add step).diagnostics = other.diagnostics) := by
  intro document inserted merged
  have hdistinct : document.DistinctShapes :=
    RawDocument.ofFindings_distinctShapes steps
  have hlast : ∀ name, document.shape? name =
      inserted.reverse.find? (fun shape => shape.name = name) :=
    RawDocument.shape?_ofFindings steps
  have hdefaults : document.defaults = OrderedMap.ofList merged :=
    RawDocument.defaults_ofFindings steps
  refine ⟨RawDocument.components_ofFindings steps,
    RawDocument.diagnostics_ofFindings steps, ⟨hdistinct, hlast, ?_, ?_⟩,
    ⟨?_, ?_, ?_⟩, RawDocument.add_frame⟩
  · intro shape
    rw [RawDocument.mem_shapes_iff hdistinct, hlast]
  · exact RawDocument.shape_names_ofFindings steps
  · rw [hdefaults]
    exact OrderedMap.keys_ofList_nodup merged
  · rw [hdefaults]
    exact OrderedMap.keys_ofList merged
  · intro key
    rw [hdefaults]
    exact OrderedMap.get?_ofList merged key

end ComponentDocs
