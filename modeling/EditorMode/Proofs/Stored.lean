import EditorMode.Stored.Config
import EditorMode.Stored.Document
import EditorMode.Stored.Token
import Mathlib.Data.List.Basic
import Mathlib.Data.List.Perm.Subperm

/-!
# Stored values are read back

A kind, a position, a token, settings or a document state that has been stored is read back as what
it was (`stored_readBack`), provided that its numbers lie below the bounds that readers insist on,
and a state is consistent.

Records are stored field by field, and a reader asks for the fields by name.  So the order of the
fields does not matter, and one lemma serves all records: what a reader gets for a name, if the
fields are some of those that were written (`Fields.get?_of_subperm`).  Settings do not need all of
their fields; those that are missing have their defaults (`Config.restrictedTo`).
-/

set_option autoImplicit false

namespace EditorMode

open scoped List

/-! ## Fields -/

namespace Fields

variable {written fields : Fields} {name : String} {value : Value}

/-- A record with distinct names has one value for each of them. -/
theorem lookup_of_mem (hnames : (written.map Prod.fst).Nodup) (h : (name, value) ∈ written) :
    written.lookup name = some value := by
  obtain ⟨early, late, rfl⟩ := List.append_of_mem h
  rw [List.map_append, List.map_cons, List.nodup_append] at hnames
  rw [List.lookup_eq_some_iff]
  refine ⟨early, late, rfl, ?_⟩
  intro field hfield
  rw [bne_iff_ne]
  exact (hnames.2.2 _ (List.mem_map_of_mem hfield) _ List.mem_cons_self).symm

/-- Some of the fields of a record have their values from it. -/
theorem lookup_of_subperm (hnames : (written.map Prod.fst).Nodup) (h : fields <+~ written)
    (hmem : (name, value) ∈ written) :
    fields.lookup name = if name ∈ fields.map Prod.fst then some value else none := by
  cases hlookup : fields.lookup name with
  | none =>
    rw [List.lookup_eq_none_iff] at hlookup
    rw [if_neg]
    intro hname
    obtain ⟨field, hfield, rfl⟩ := List.mem_map.1 hname
    simpa using hlookup field hfield
  | some found =>
    obtain ⟨early, late, rfl, -⟩ := List.lookup_eq_some_iff.1 hlookup
    have hfound := lookup_of_mem hnames (h.subset (List.mem_append_right early List.mem_cons_self))
    rw [lookup_of_mem hnames hmem] at hfound
    rw [if_pos (by simp), hfound]

variable {α : Type} {form : Value → Option α} {a : α}

/-- **What a reader gets for a name**, from some of the fields of a record. -/
theorem get?_of_subperm (hnames : (written.map Prod.fst).Nodup) (h : fields <+~ written)
    (hmem : (name, value) ∈ written) (hform : form value = some a) :
    fields.get? name form = .ok (if name ∈ fields.map Prod.fst then some a else none) := by
  rw [get?, lookup_of_subperm hnames h hmem]
  by_cases hname : name ∈ fields.map Prod.fst
  · simp only [if_pos hname, hform]
  · simp only [if_neg hname]

/-- A reader gets every field of a record, in whatever order they come. -/
theorem get?_of_perm (hnames : (written.map Prod.fst).Nodup) (h : fields ~ written)
    (hmem : (name, value) ∈ written) (hform : form value = some a) :
    fields.get? name form = .ok (some a) := by
  rw [get?_of_subperm hnames h.subperm hmem hform, if_pos]
  exact List.mem_map_of_mem (h.mem_iff.2 hmem)

/-- A field that may be missing has its default then. -/
theorem getD_ite {p : Prop} [Decidable p] (a b : α) :
    (if p then some a else none).getD b = if p then a else b := by
  split <;> rfl

end Fields

namespace Value

theorem natBelow?_nat {bound n : Nat} (h : n < bound) : natBelow? bound (.nat n) = some n :=
  if_pos h

theorem string?_string (s : String) : string? (.string s) = some s := rfl

theorem bool?_bool (b : Bool) : bool? (.bool b) = some b := rfl

theorem columns?_array {columns : List Nat} (h : ∀ column ∈ columns, column < columnBound) :
    columns? (.array (columns.map .nat)) = some columns := by
  show (columns.map Value.nat).mapM column? = some columns
  induction columns with
  | nil => rfl
  | cons column columns ih =>
    rw [List.forall_mem_cons] at h
    rw [List.map_cons, List.mapM_cons, ih h.2, column?, natBelow?_nat h.1]
    rfl

end Value

/-! ## Kinds -/

theorem Kind.ofValue?_toValue (k : Kind) : ofValue? k.toValue = some k := by
  cases k <;> rfl

/-- Different kinds are stored differently, whatever name a named one has. -/
theorem Kind.toValue_injective : Function.Injective Kind.toValue := by
  intro k k' h
  have hread := congrArg ofValue? h
  rw [ofValue?_toValue, ofValue?_toValue] at hread
  exact Option.some.inj hread

/-! ## Positions and tokens -/

/-- The numbers of the position lie below their bounds. -/
structure Position.InRange (p : Position) : Prop where
  line : p.line < offsetBound
  column : p.column < columnBound

theorem Position.ofValue_of_perm {p : Position} (h : p.InRange) {fields : Fields}
    (hfields : fields ~ p.toFields) : ofValue (.object fields) = .ok p := by
  have hnames : (p.toFields.map Prod.fst).Nodup := by simp [toFields]
  have hline : fields.get? "line" Value.offset? = .ok (some p.line) :=
    Fields.get?_of_perm hnames hfields (by simp [toFields]) (Value.natBelow?_nat h.line)
  have hcolumn : fields.get? "column" Value.column? = .ok (some p.column) :=
    Fields.get?_of_perm hnames hfields (by simp [toFields]) (Value.natBelow?_nat h.column)
  simp only [ofValue, hline, hcolumn]
  rfl

/-- The numbers of the token lie below their bounds. -/
structure Token.InRange (t : Token) : Prop where
  line : t.line < offsetBound
  offset : t.offset < offsetBound
  column : t.column < columnBound

theorem Token.ofValue_of_perm {t : Token} (h : t.InRange) {fields : Fields}
    (hfields : fields ~ t.toFields) : ofValue (.object fields) = .ok t := by
  have hnames : (t.toFields.map Prod.fst).Nodup := by simp [toFields]
  have hkind : fields.get? "kind" Kind.ofValue? = .ok (some t.kind) :=
    Fields.get?_of_perm hnames hfields (by simp [toFields]) t.kind.ofValue?_toValue
  have htext : fields.get? "text" Value.string? = .ok (some (String.ofList t.text)) :=
    Fields.get?_of_perm hnames hfields (by simp [toFields]) (Value.string?_string _)
  have hline : fields.get? "line" Value.offset? = .ok (some t.line) :=
    Fields.get?_of_perm hnames hfields (by simp [toFields]) (Value.natBelow?_nat h.line)
  have hoffset : fields.get? "offset" Value.offset? = .ok (some t.offset) :=
    Fields.get?_of_perm hnames hfields (by simp [toFields]) (Value.natBelow?_nat h.offset)
  have hcolumn : fields.get? "column" Value.column? = .ok (some t.column) :=
    Fields.get?_of_perm hnames hfields (by simp [toFields]) (Value.natBelow?_nat h.column)
  simp only [ofValue, hkind, htext, hline, hoffset, hcolumn]
  show Except.ok (Token.mk t.kind (String.ofList t.text).toList t.line t.offset t.column) = _
  rw [String.toList_ofList]

/-! ## Settings -/

/-- The numbers of the settings lie below their bounds. -/
structure Config.InRange (c : Config) : Prop where
  indentUnit : c.indentUnit < columnBound
  tabSize : c.tabSize < columnBound
  anchorOffset : c.anchorOffset < columnBound

/-- The settings with the given names, and the defaults of all others. -/
def Config.restrictedTo (c : Config) (names : List String) : Config where
  indentUnit := if "indent_unit" ∈ names then c.indentUnit else standard.indentUnit
  tabSize := if "tab_size" ∈ names then c.tabSize else standard.tabSize
  anchorOffset := if "function_anchor_offset" ∈ names then c.anchorOffset else standard.anchorOffset
  continuationMarker :=
    if "continuation_marker" ∈ names then c.continuationMarker else standard.continuationMarker
  closeMarker := if "block_close_marker" ∈ names then c.closeMarker else standard.closeMarker

/-- Settings of which some fields are missing have the defaults for these. -/
theorem Config.ofValue_of_subperm {c : Config} (h : c.InRange) {fields : Fields}
    (hfields : fields <+~ c.toFields) :
    ofValue (.object fields) = .ok (c.restrictedTo (fields.map Prod.fst)) := by
  have hnames : (c.toFields.map Prod.fst).Nodup := by simp [toFields]
  have hunit : fields.get? "indent_unit" Value.column? =
      .ok (if "indent_unit" ∈ fields.map Prod.fst then some c.indentUnit else none) :=
    Fields.get?_of_subperm hnames hfields (by simp [toFields]) (Value.natBelow?_nat h.indentUnit)
  have htab : fields.get? "tab_size" Value.column? =
      .ok (if "tab_size" ∈ fields.map Prod.fst then some c.tabSize else none) :=
    Fields.get?_of_subperm hnames hfields (by simp [toFields]) (Value.natBelow?_nat h.tabSize)
  have hoffset : fields.get? "function_anchor_offset" Value.column? =
      .ok (if "function_anchor_offset" ∈ fields.map Prod.fst then some c.anchorOffset else none) :=
    Fields.get?_of_subperm hnames hfields (by simp [toFields]) (Value.natBelow?_nat h.anchorOffset)
  have hmarker : fields.get? "continuation_marker" Value.string? =
      .ok (if "continuation_marker" ∈ fields.map Prod.fst then some c.continuationMarker
        else none) :=
    Fields.get?_of_subperm hnames hfields (by simp [toFields]) (Value.string?_string _)
  have hclose : fields.get? "block_close_marker" Value.string? =
      .ok (if "block_close_marker" ∈ fields.map Prod.fst then some c.closeMarker else none) :=
    Fields.get?_of_subperm hnames hfields (by simp [toFields]) (Value.string?_string _)
  simp only [ofValue, ofFields, hunit, htab, hoffset, hmarker, hclose, restrictedTo]
  show Except.ok (Config.mk _ _ _ _ _) = _
  simp only [Fields.getD_ite]

theorem Config.restrictedTo_names (c : Config) :
    c.restrictedTo (c.toFields.map Prod.fst) = c := by
  simp [restrictedTo, toFields]

/-! ## Document states -/

/-- The numbers of the state lie below their bounds. -/
structure Document.Storable (d : Document) : Prop where
  level : d.level < columnBound
  columns : ∀ column ∈ d.columns, column < columnBound
  anchor : d.anchor < columnBound

/-- The number of the levels lies below the bound as well. -/
structure Document.InRange (d : Document) : Prop extends d.Storable where
  levels : d.level + 1 < columnBound

theorem Document.checked_of_consistent {d : Document} (hlevel : d.level + 1 < columnBound)
    (hconsistent : d.Consistent) : d.checked = .ok d := by
  rw [checked, isConsistent, addBelow_of_lt hlevel, hconsistent]
  simp [Except.map]

theorem Document.ofValueUnchecked_of_perm {d : Document} (h : d.Storable) {fields : Fields}
    (hfields : fields ~ d.toFields) : ofValueUnchecked (.object fields) = .ok d := by
  have hnames : (d.toFields.map Prod.fst).Nodup := by simp [toFields]
  have hlevel : fields.get? "block_level" Value.column? = .ok (some d.level) :=
    Fields.get?_of_perm hnames hfields (by simp [toFields]) (Value.natBelow?_nat h.level)
  have hcolumns : fields.get? "block_indent" Value.columns? = .ok (some d.columns) :=
    Fields.get?_of_perm hnames hfields (by simp [toFields]) (Value.columns?_array h.columns)
  have hopened : fields.get? "line_contained_block_start" Value.bool? = .ok (some d.openedBlock) :=
    Fields.get?_of_perm hnames hfields (by simp [toFields]) (Value.bool?_bool _)
  have hend : fields.get? "at_eol" Value.bool? = .ok (some d.atLineEnd) :=
    Fields.get?_of_perm hnames hfields (by simp [toFields]) (Value.bool?_bool _)
  have hcontinued : fields.get? "continued_line" Value.bool? = .ok (some d.continued) :=
    Fields.get?_of_perm hnames hfields (by simp [toFields]) (Value.bool?_bool _)
  have hanchor : fields.get? "function_token_column" Value.column? = .ok (some d.anchor) :=
    Fields.get?_of_perm hnames hfields (by simp [toFields]) (Value.natBelow?_nat h.anchor)
  simp only [ofValueUnchecked, hlevel, hcolumns, hopened, hend, hcontinued, hanchor]
  rfl

theorem Document.ofValue_of_perm {d : Document} (h : d.InRange) (hconsistent : d.Consistent)
    {fields : Fields} (hfields : fields ~ d.toFields) : ofValue (.object fields) = .ok d := by
  rw [ofValue, ofValueUnchecked_of_perm h.toStorable hfields]
  exact checked_of_consistent h.levels hconsistent

/-! ## All of them -/

/-- **What has been stored is read back.**  This holds of kinds, where a named kind stays apart from
all others whatever its name is, of tokens, positions, settings and consistent document states whose
numbers lie below their bounds.  A record that holds some of the stored fields of settings, in any
order, is read as the settings with exactly the other fields at their defaults. -/
theorem stored_readBack :
    (∀ k : Kind, Kind.ofValue? k.toValue = some k) ∧
    (∀ (k : Kind) (name : String), k.toValue = (Kind.named name).toValue → k = .named name) ∧
    (∀ t : Token, t.InRange → Token.ofValue t.toValue = .ok t) ∧
    (∀ p : Position, p.InRange → Position.ofValue p.toValue = .ok p) ∧
    (∀ c : Config, c.InRange → Config.ofValue c.toValue = .ok c) ∧
    (∀ d : Document, d.InRange → d.Consistent → Document.ofValue d.toValue = .ok d) ∧
    ∀ c : Config, c.InRange → ∀ fields : Fields, fields <+~ c.toFields →
      Config.ofValue (.object fields) = .ok (c.restrictedTo (fields.map Prod.fst)) := by
  refine ⟨Kind.ofValue?_toValue, fun k name h => Kind.toValue_injective h, ?_, ?_, ?_, ?_, ?_⟩
  · intro t ht
    exact Token.ofValue_of_perm ht .rfl
  · intro p hp
    exact Position.ofValue_of_perm hp .rfl
  · intro c hc
    rw [Config.toValue, Config.ofValue_of_subperm hc (List.Subperm.refl _), c.restrictedTo_names]
  · intro d hd hconsistent
    exact Document.ofValue_of_perm hd hconsistent .rfl
  · intro c hc fields hfields
    exact Config.ofValue_of_subperm hc hfields

/-- A named kind that is called like the case of another, the largest numbers that can be read, and
two fields of settings in another order. -/
theorem stored_readBack_edges :
    let t : Token := ⟨.named "Eol", ['\x7b', 'ø'], 4294967295, 7, 18446744073709551615⟩
    let p : Position := ⟨4294967295, 18446744073709551615⟩
    let d : Document := ⟨1, [18446744073709551615, 0], true, false, true, 8⟩
    let c : Config := ⟨18446744073709551615, 0, 3, "", "end"⟩
    Kind.endOfLine.toValue ≠ t.kind.toValue ∧ Token.ofValue t.toValue = .ok t ∧
      Position.ofValue p.toValue = .ok p ∧ Document.ofValue d.toValue = .ok d ∧
      Config.ofValue c.toValue = .ok c ∧
      Config.ofValue (.object [("block_close_marker", .string "end"), ("tab_size", .nat 0)]) =
        .ok ⟨2, 0, 8, "...", "end"⟩ := by
  intro t p d c
  obtain ⟨-, hnamed, htoken, hposition, hconfig, hdocument, hsome⟩ := stored_readBack
  have hc : c.InRange := ⟨by decide, by decide, by decide⟩
  refine ⟨?_, htoken t ⟨by decide, by decide, by decide⟩, hposition p ⟨by decide, by decide⟩,
    hdocument d ⟨⟨by decide, by decide, by decide⟩, by decide⟩ rfl, hconfig c hc, ?_⟩
  · intro h
    cases hnamed _ _ h
  · refine (hsome c hc _ ?_).trans rfl
    exact ⟨_, .swap _ _ [], .cons _ (.cons_cons _ (.cons _ (.cons _ (.cons_cons _ .slnil))))⟩

end EditorMode
