import Mathlib.Data.List.Sort
import Mathlib.Data.String.Basic
import TsWorkshop.Proofs.Bundle.Names
import TsWorkshop.Proofs.Json.Quoted
import TsWorkshop.Proofs.Text.ByteOrder
import TsWorkshop.Proofs.Text.Pieces

/-!
The text of the module that wraps a bundle, whatever the bundle's path and the names of its keys
are.

* `text_exact`: its lines are one import, one line for each exported key in increasing order, and
  the default export; nothing of a path or a key gets out of its place.
* `declared_once_iff`: no name is declared twice, but for the name of the import itself, which is
  declared again if the bundle has a key of that name.
-/

namespace TsWorkshop

/-! ### Keys in order -/

namespace ModuleShape

theorem mem_insertKey (key other : String) (keys : List String) :
    other ∈ insertKey key keys ↔ other = key ∨ other ∈ keys := by
  induction keys with
  | nil => simp [insertKey]
  | cons first rest ih =>
    unfold insertKey
    split
    · simp
    · split
      · rename_i same
        simp [same]
      · simp [ih, or_left_comm]

theorem mem_sortedKeys (key : String) (keys : List String) :
    key ∈ sortedKeys keys ↔ key ∈ keys := by
  induction keys with
  | nil => rfl
  | cons first rest ih =>
    rw [sortedKeys, List.foldr_cons, mem_insertKey, List.mem_cons]
    exact or_congr_right ih

theorem pairwise_insertKey (key : String) (keys : List String) (h : keys.Pairwise (· < ·)) :
    (insertKey key keys).Pairwise (· < ·) := by
  induction keys with
  | nil => simp [insertKey]
  | cons first rest ih =>
    obtain ⟨least, ordered⟩ := List.pairwise_cons.mp h
    unfold insertKey
    split
    · rename_i smaller
      refine List.pairwise_cons.mpr ⟨fun other inside => ?_, h⟩
      rcases List.mem_cons.mp inside with rfl | later
      · exact smaller
      · exact lt_trans smaller (least other later)
    · split
      · exact h
      · rename_i noSmaller different
        have larger : first < key := lt_of_le_of_ne (not_lt.mp noSmaller) (Ne.symm different)
        refine List.pairwise_cons.mpr ⟨fun other inside => ?_, ih ordered⟩
        rcases (mem_insertKey key other rest).mp inside with rfl | later
        · exact larger
        · exact least other later

theorem pairwise_sortedKeys (keys : List String) : (sortedKeys keys).Pairwise (· < ·) := by
  induction keys with
  | nil => exact List.Pairwise.nil
  | cons first rest ih => exact pairwise_insertKey first _ ih

end ModuleShape

namespace Wrapper

open ModuleShape

/-- The keys that the wrapper exports, in order. -/
def exportedKeys (shape : ModuleShape) : List String := shape.exportKeys.filter isIdentifier

/-- A key that can be exported by its own name: an identifier among the keys of an object, or of a
function that does not have it as every function does. -/
structure Exported (shape : ModuleShape) (key : String) : Prop where
  present : key ∈ shape.keys
  unmarked : key ≠ "__esModule"
  identifier : isIdentifier key = true
  kind : shape.kind = "object" ∨
    shape.kind = "function" ∧ key ∉ ["length", "prototype", "name", "caller"]

theorem exports_iff (kind key : String) :
    exports kind key = true ↔ key ≠ "__esModule" ∧
      (kind = "object" ∨ kind = "function" ∧ key ∉ ["length", "prototype", "name", "caller"]) := by
  unfold exports functionKeys
  split
  · rename_i function
    simp [function]
  · rename_i other
    simp [other]

theorem mem_exportedKeys (shape : ModuleShape) (key : String) :
    key ∈ exportedKeys shape ↔ Exported shape key := by
  simp only [exportedKeys, exportKeys, List.mem_filter, mem_sortedKeys, exports_iff]
  constructor
  · rintro ⟨⟨present, unmarked, kind⟩, identifier⟩
    exact ⟨present, unmarked, identifier, kind⟩
  · rintro ⟨present, unmarked, identifier, kind⟩
    exact ⟨⟨present, unmarked, kind⟩, identifier⟩

theorem pairwise_exportedKeys (shape : ModuleShape) :
    (exportedKeys shape).Pairwise (· < ·) :=
  ((pairwise_sortedKeys shape.keys).filter _).filter _

/-- Which keys are exported depends on the kind and on which keys there are. -/
theorem exportedKeys_congr (shape other : ModuleShape) (kind : other.kind = shape.kind)
    (keys : ∀ key, key ∈ other.keys ↔ key ∈ shape.keys) :
    exportedKeys other = exportedKeys shape := by
  refine (pairwise_exportedKeys other).eq_of_mem_iff (pairwise_exportedKeys shape) fun key => ?_
  rw [mem_exportedKeys, mem_exportedKeys]
  constructor
  · rintro ⟨present, unmarked, identifier, exported⟩
    exact ⟨(keys key).mp present, unmarked, identifier, kind ▸ exported⟩
  · rintro ⟨present, unmarked, identifier, exported⟩
    exact ⟨(keys key).mpr present, unmarked, identifier, kind.symm ▸ exported⟩

/-! ### Lines -/

/-- The line that exports a key. -/
def exportStatement (key : String) : String := "export const " ++ key ++ " = mod." ++ key ++ ";"

theorem exportStatement_eq (key : String) :
    exportStatement key = "export const " ++ (key ++ (" = mod." ++ (key ++ ";"))) := by
  change "export const " ++ key ++ " = mod." ++ key ++ ";" = _
  simp only [String.append_assoc]

/-- The lines of the wrapper: the import, the exports, and the default export behind an empty
line. -/
def linesOf (shape : ModuleShape) (path : String) : List String :=
  ("import mod from " ++ Json.quoted (specifier path) ++ ";") ::
    ((exportedKeys shape).map exportStatement ++ ["", "export default mod;"])

theorem text_eq_join (shape : ModuleShape) (path : String) :
    text shape path = Text.join "\n" (linesOf shape path) := by
  have exportLines : ∀ keys : List String,
      Text.join "" (keys.map exportLine) ++ "\nexport default mod;" =
        Text.join "\n" (keys.map exportStatement ++ ["", "export default mod;"]) := by
    intro keys
    induction keys with
    | nil => simp [Text.join]
    | cons key keys ih =>
      have line : exportLine key = exportStatement key ++ "\n" :=
        (String.append_assoc : exportStatement key ++ "\n" = _).symm
      rw [List.map_cons, Text.join_nothing_cons, String.append_assoc, ih, List.map_cons,
        List.cons_append, Text.join_cons _ _ _ (by simp), line]
  calc text shape path
    _ = "import mod from " ++ Json.quoted (specifier path) ++ (";" ++ "\n") ++
          (Text.join "" ((exportedKeys shape).map exportLine) ++ "\nexport default mod;") :=
      String.append_assoc
    _ = Text.join "\n" (linesOf shape path) := by
      rw [exportLines, linesOf, Text.join_cons _ _ _ (by simp)]
      simp only [String.append_assoc]

theorem split_text (shape : ModuleShape) (path : String) :
    Text.split '\n' (text shape path) = linesOf shape path := by
  have oneLine : ∀ line ∈ linesOf shape path, '\n' ∉ line.toList := by
    intro line inside
    simp only [linesOf, List.mem_cons, List.mem_append, List.mem_map, List.not_mem_nil,
      or_false] at inside
    rcases inside with rfl | ⟨key, exported, rfl⟩ | rfl | rfl
    · have quoted := Json.feed_not_mem_quoted (specifier path)
      simp [quoted]
    · have name := feed_not_mem_identifier key ((mem_exportedKeys shape key).mp exported).identifier
      rw [exportStatement_eq]
      simp [name]
    · simp
    · decide
  rw [text_eq_join]
  exact Text.split_join '\n' _ (by simp [linesOf]) oneLine

/-! ### Paths -/

/-- A path that is marked as relative. -/
def IsRelative (path : String) : Prop :=
  "./".toList <+: path.toList ∨ "../".toList <+: path.toList ∨ path = ".."

theorem startsWith_iff (start s : String) :
    Text.startsWith start s = true ↔ start.toList <+: s.toList := by
  rw [Text.startsWith, Option.isSome_iff_exists]
  exact exists_congr fun rest => (Text.stripStart_eq_some_iff _ _ rest).trans eq_comm

theorem isRelative_iff (path : String) :
    (Text.startsWith "./" path || Text.startsWith "../" path || path = "..") = true ↔
      IsRelative path := by
  simp only [Bool.or_eq_true, startsWith_iff, decide_eq_true_eq, IsRelative, or_assoc]

theorem specifier_of_isRelative (path : String) (h : IsRelative path) : specifier path = path :=
  if_pos ((isRelative_iff path).mpr h)

theorem specifier_of_not_isRelative (path : String) (h : ¬ IsRelative path) :
    specifier path = "./" ++ path :=
  if_neg fun relative => h ((isRelative_iff path).mp relative)

/-! ### The text -/

/-- The wrapper of any bundle, line by line. Its specifier is read back as the path, marked as
relative if it is not; its exports are the keys that can be exported, each once, in increasing order
of their bytes. So the order in which the keys are listed, and how often, makes no difference. -/
theorem text_exact (shape : ModuleShape) (path : String) :
    ∃ (specifier : String) (keys : List String),
      Text.split '\n' (text shape path) =
        ("import mod from " ++ specifier ++ ";") ::
          (keys.map (fun key => "export const " ++ key ++ " = mod." ++ key ++ ";") ++
            ["", "export default mod;"]) ∧
      (IsRelative path → Json.ofText specifier = .ok (.str path)) ∧
      (¬ IsRelative path → Json.ofText specifier = .ok (.str ("./" ++ path))) ∧
      keys.Pairwise (fun a b => Text.bytes a < Text.bytes b) ∧
      (∀ key, key ∈ keys ↔ Exported shape key) ∧
      ∀ other : ModuleShape, other.kind = shape.kind →
        (∀ key, key ∈ other.keys ↔ key ∈ shape.keys) → text other path = text shape path := by
  have read := Json.ofText_quoted (specifier path)
  refine ⟨Json.quoted (specifier path), exportedKeys shape, split_text shape path,
    fun relative => ?_, fun other => ?_, ?_, mem_exportedKeys shape, fun other kind keys => ?_⟩
  · rw [read, specifier_of_isRelative path relative]
  · rw [read, specifier_of_not_isRelative path other]
  · exact (pairwise_exportedKeys shape).imp fun {a b} smaller => Text.bytes_lt_bytes a b smaller
  · rw [text_eq_join, text_eq_join, linesOf, linesOf, exportedKeys_congr shape other kind keys]

/-! ### Declared names -/

/-- The name that a line of a module declares: that of a default import or of a constant that is
exported. -/
def declaredName? (line : String) : Option String :=
  ((Text.stripStart? "import " line).or (Text.stripStart? "export const " line)).map fun rest =>
    String.ofList (rest.toList.takeWhile (· ≠ ' '))

/-- The names that a module declares, line by line. -/
def declaredNames (text : String) : List String := (Text.split '\n' text).filterMap declaredName?

theorem declaredName?_import (specifier : String) :
    declaredName? ("import mod from " ++ specifier ++ ";") = some "mod" := by
  have behind : "import mod from " ++ specifier ++ ";" =
      "import " ++ ("mod from " ++ (specifier ++ ";")) := by
    rw [← String.append_assoc, ← String.append_assoc]
    rfl
  rw [behind, declaredName?, Text.stripStart?_append, Option.some_or, Option.map_some]
  simp

theorem declaredName?_export (key : String) (h : isIdentifier key = true) :
    declaredName? (exportStatement key) = some key := by
  have noImport : ∀ rest : String, Text.stripStart? "import " ("export const " ++ rest) = none := by
    intro rest
    simp [Text.stripStart?, Text.stripStart]
  have notSpace : ∀ c ∈ key.toList, decide (c ≠ ' ') = true := by
    intro c inside
    exact decide_eq_true fun space => space_not_mem_identifier key h (space ▸ inside)
  rw [exportStatement_eq, declaredName?, noImport, Option.none_or, Text.stripStart?_append,
    Option.map_some, String.toList_append, List.takeWhile_append_of_pos notSpace]
  simp

theorem declaredNames_text (shape : ModuleShape) (path : String) :
    declaredNames (text shape path) = "mod" :: exportedKeys shape := by
  have exports : ((exportedKeys shape).map exportStatement).filterMap declaredName? =
      exportedKeys shape := by
    rw [List.filterMap_map, List.filterMap_congr (g := some), List.filterMap_some]
    intro key inside
    exact declaredName?_export key ((mem_exportedKeys shape key).mp inside).identifier
  have closing : ["", "export default mod;"].filterMap declaredName? = [] := by decide
  rw [declaredNames, split_text, linesOf, List.filterMap_cons, declaredName?_import]
  simp only [List.filterMap_append, exports, closing, List.append_nil]

theorem exported_mod_iff (shape : ModuleShape) :
    Exported shape "mod" ↔
      "mod" ∈ shape.keys ∧ (shape.kind = "object" ∨ shape.kind = "function") := by
  constructor
  · rintro ⟨present, -, -, kind⟩
    exact ⟨present, kind.imp_right And.left⟩
  · rintro ⟨present, kind⟩
    exact ⟨present, by decide, by decide +kernel, kind.imp_right fun h => ⟨h, by decide⟩⟩

/-- The wrapper declares no name twice but its own name for the bundle, and that one exactly if the
bundle has an own key of this name. -/
theorem declared_once_iff (shape : ModuleShape) (path : String) :
    (∀ name, name ≠ "mod" → (declaredNames (text shape path)).count name ≤ 1) ∧
      ((declaredNames (text shape path)).Nodup ↔
        ¬ ("mod" ∈ shape.keys ∧ (shape.kind = "object" ∨ shape.kind = "function"))) := by
  have unique : (exportedKeys shape).Nodup := (pairwise_exportedKeys shape).imp ne_of_lt
  rw [declaredNames_text]
  refine ⟨fun name other => ?_, ?_⟩
  · rw [List.count_cons_of_ne (Ne.symm other)]
    exact List.nodup_iff_count_le_one.mp unique name
  · rw [List.nodup_cons, mem_exportedKeys, exported_mod_iff]
    exact and_iff_left unique

/-- A bundle that exports a value by the name `mod`. -/
theorem declared_twice :
    ¬ (declaredNames (text ⟨"object", ["mod"]⟩ "a.cjs")).Nodup := by
  decide +kernel

end Wrapper

end TsWorkshop
