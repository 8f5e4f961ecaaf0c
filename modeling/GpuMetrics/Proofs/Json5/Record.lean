import GpuMetrics.Json5.Decode
import GpuMetrics.Proofs.Json5.Write
import Mathlib.Data.List.Nodup

/-!
# Writing a record

A **form** (`GpuMetrics.Json5.Form`) is a way of writing the values of a type that its decoder
understands. Every value has a document in its form, and mostly many. A record is written as an
object (`GpuMetrics.Json5.WritesRecord`): each of its fields has a **slot** with a name and a
form, the members stand in any order, a field that is at its default may be left out, and strings
under names that belong to no slot may stand among the members.

The decoder puts one member after the other into the record, starting from the defaults. What it
has in a slot after some of the members is the written record's value if the slot was among them,
and the default otherwise (`GpuMetrics.Json5.putMembers_of_writesMembers`). At the end that is the
written record, slot by slot (`GpuMetrics.Json5.record_of_writesRecord`).
-/

namespace GpuMetrics.Json5

/-- A way of writing the values of a type, which its decoder understands. -/
structure Form (α : Type) where
  decoder : Decoder α
  /-- The document that stands for a value. -/
  Writes : Value → α → Prop
  decoder_of_writes : ∀ {v : Value} {a : α}, Writes v a → decoder v = .ok a
  isWritten_of_writes : ∀ {v : Value} {a : α}, Writes v a → ∀ t ∈ v.tokens, t.IsWritten
  exists_writes : ∀ a : α, ∃ v, Writes v a

/-! ### Strings, lists and words -/

/-- A string in any of its spellings. -/
inductive WritesString : Value → String → Prop where
  | of {pieces : List Piece} {s : String} (spells : Spells pieces s) :
      WritesString (.string pieces) s

theorem string_of_writesString {v : Value} {s : String} (h : WritesString v s) :
    Decoder.string v = .ok s := by
  cases h with
  | of spells => exact stringOf?_of_spells spells

theorem isWritten_of_writesString {v : Value} {s : String} (h : WritesString v s) :
    ∀ t ∈ v.tokens, t.IsWritten := by
  cases h with
  | of spells =>
    rw [Value.tokens]
    exact List.forall_mem_singleton.mpr (.string spells)

theorem exists_writesString (s : String) : ∃ v, WritesString v s :=
  (exists_spells s).imp' _ fun _ => .of

/-- An array of strings. -/
inductive WritesStrings : Value → List String → Prop where
  | of {items : List Value} {ss : List String} (each : List.Forall₂ WritesString items ss) :
      WritesStrings (.array items) ss

theorem strings_of_writesStrings {v : Value} {ss : List String} (h : WritesStrings v ss) :
    Decoder.strings v = .ok ss := by
  cases h with
  | of each =>
    rw [Decoder.strings]
    induction each with
    | nil => rfl
    | cons hitem _ ih =>
      rw [List.mapM_cons, string_of_writesString hitem, ih]
      rfl

theorem isWritten_of_writesStrings {v : Value} {ss : List String} (h : WritesStrings v ss) :
    ∀ t ∈ v.tokens, t.IsWritten := by
  cases h with
  | @of items _ each =>
    have hitems : ∀ item ∈ items, ∀ t ∈ item.tokens, t.IsWritten := by
      induction each with
      | nil => simp
      | cons hitem _ ih => exact List.forall_mem_cons.mpr ⟨isWritten_of_writesString hitem, ih⟩
    rw [Value.tokens]
    exact List.forall_mem_cons.mpr ⟨.mark rfl, Value.isWritten_itemTokens hitems⟩

theorem exists_writesStrings (ss : List String) : ∃ v, WritesStrings v ss := by
  have hitems : ∃ items, List.Forall₂ WritesString items ss := by
    induction ss with
    | nil => exact ⟨[], .nil⟩
    | cons s ss ih =>
      obtain ⟨v, hv⟩ := exists_writesString s
      obtain ⟨items, hitems⟩ := ih
      exact ⟨v :: items, .cons hv hitems⟩
  exact hitems.imp' _ fun _ => .of

/-- The word of a choice, as a string. -/
inductive WritesChoice {α : Type} (choices : List (String × α)) : Value → α → Prop where
  | of {word : String} {a : α} (means : choices.lookup word = some a) {v : Value}
      (writes : WritesString v word) : WritesChoice choices v a

theorem choice_of_writesChoice {α : Type} {choices : List (String × α)} {v : Value} {a : α}
    (h : WritesChoice choices v a) : Decoder.choice choices v = .ok a := by
  cases h with
  | of means writes =>
    cases writes with
    | of spells =>
      simp only [Decoder.choice, stringOf?_of_spells spells, means]

theorem isWritten_of_writesChoice {α : Type} {choices : List (String × α)} {v : Value} {a : α}
    (h : WritesChoice choices v a) : ∀ t ∈ v.tokens, t.IsWritten := by
  cases h with
  | of _ writes => exact isWritten_of_writesString writes

/-- The form of a string. -/
def Form.string : Form String where
  decoder := .string
  Writes := WritesString
  decoder_of_writes := string_of_writesString
  isWritten_of_writes := isWritten_of_writesString
  exists_writes := exists_writesString

/-- The form of a list of strings. -/
def Form.strings : Form (List String) where
  decoder := .strings
  Writes := WritesStrings
  decoder_of_writes := strings_of_writesStrings
  isWritten_of_writes := isWritten_of_writesStrings
  exists_writes := exists_writesStrings

/-- The form of a choice, where there is a word for everything. -/
def Form.choice {α : Type} (choices : List (String × α))
    (h : ∀ a, ∃ word, choices.lookup word = some a) : Form α where
  decoder := .choice choices
  Writes := WritesChoice choices
  decoder_of_writes := choice_of_writesChoice
  isWritten_of_writes := isWritten_of_writesChoice
  exists_writes a := by
    obtain ⟨word, hword⟩ := h a
    obtain ⟨v, hv⟩ := exists_writesString word
    exact ⟨v, .of hword hv⟩

/-! ### Slots -/

/-- A field of a record `σ`: its name, the form of its value, and its place in the record. -/
structure Slot (σ : Type) where
  {α : Type}
  name : String
  form : Form α
  get : σ → α
  set : α → σ → σ
  get_set : ∀ a s, get (set a s) = a

/-- The field as the decoder knows it. -/
def Slot.field {σ : Type} (slot : Slot σ) : RecordField σ :=
  .of slot.name slot.form.decoder slot.set

/-- Slots that make up a record: their names differ, setting one leaves the others as they are, and
together they determine the record. -/
structure MakeUp {σ : Type} (slots : List (Slot σ)) : Prop where
  nodup : (slots.map Slot.name).Nodup
  get_set_of_ne : ∀ s ∈ slots, ∀ t ∈ slots, s.name ≠ t.name →
    ∀ a r, t.get (s.set a r) = t.get r
  ext : ∀ r r', (∀ t ∈ slots, t.get r = t.get r') → r = r'

variable {σ : Type} {slots : List (Slot σ)}

/-- Members that write fields of a record, and the names of those fields. Strings under names that
belong to no field may stand among them. -/
inductive WritesMembers (slots : List (Slot σ)) (r : σ) :
    List String → List (List Piece × Value) → Prop where
  | nil : WritesMembers slots r [] []
  | field {slot : Slot σ} (mem : slot ∈ slots) {key : List Piece} (spells : Spells key slot.name)
      {v : Value} (writes : slot.form.Writes v (slot.get r)) {written : List String}
      {members : List (List Piece × Value)} (once : slot.name ∉ written)
      (rest : WritesMembers slots r written members) :
      WritesMembers slots r (slot.name :: written) ((key, v) :: members)
  | unknown {name : String} (unknown : name ∉ slots.map Slot.name) {key : List Piece}
      (spells : Spells key name) {v : Value} {s : String} (writes : WritesString v s)
      {written : List String} {members : List (List Piece × Value)}
      (rest : WritesMembers slots r written members) :
      WritesMembers slots r written ((key, v) :: members)

/-- An object that writes a record: whatever field it leaves out is at its default. -/
inductive WritesRecord (slots : List (Slot σ)) (defaults : σ) : Value → σ → Prop where
  | of {r : σ} {written : List String} {members : List (List Piece × Value)}
      (writes : WritesMembers slots r written members)
      (default : ∀ t ∈ slots, t.name ∉ written → t.get r = t.get defaults) :
      WritesRecord slots defaults (.object members) r

theorem skip?_of_writesString {v : Value} {s : String} (h : WritesString v s) :
    v.skip? = .ok () := by
  cases h with
  | of spells =>
    rw [Value.skip?, stringOf?_of_spells spells]
    rfl

/-- A field is found under its name. -/
theorem find?_field (hnodup : (slots.map Slot.name).Nodup) {slot : Slot σ} (hmem : slot ∈ slots) :
    (slots.map Slot.field).find? (·.name = slot.name) = some slot.field := by
  induction slots with
  | nil => cases hmem
  | cons head slots ih =>
    rw [List.map_cons, List.nodup_cons] at hnodup
    rw [List.map_cons, List.find?_cons]
    rcases List.mem_cons.mp hmem with rfl | htail
    · simp [Slot.field, RecordField.of]
    · have hne : head.name ≠ slot.name := by
        intro heq
        exact hnodup.1 (heq ▸ List.mem_map_of_mem htail)
      simp only [Slot.field, RecordField.of, hne, decide_false] at ih ⊢
      exact ih hnodup.2 htail

theorem find?_field_eq_none {name : String} (h : name ∉ slots.map Slot.name) :
    (slots.map Slot.field).find? (·.name = name) = none := by
  simp only [List.mem_map, not_exists, not_and] at h
  simp only [List.find?_eq_none, List.mem_map, decide_eq_true_eq]
  rintro _ ⟨slot, hmem, rfl⟩
  exact h slot hmem

/-- **Members are put into their fields, and into no other.** -/
theorem putMembers_of_writesMembers (h : MakeUp slots) {r : σ} {written : List String}
    {members : List (List Piece × Value)} (hwrites : WritesMembers slots r written members)
    (seen : List String) (hseen : ∀ name ∈ written, name ∉ seen) (s : σ) :
    ∃ r', putMembers (slots.map Slot.field) members seen s = .ok r' ∧
      ∀ t ∈ slots, t.get r' = if t.name ∈ written then t.get r else t.get s := by
  induction hwrites generalizing seen s with
  | nil => exact ⟨s, rfl, by simp⟩
  | @field slot mem key spells v writes written members once rest ih =>
    have hput : slot.field.put v s = .ok (slot.set (slot.get r) s) := by
      rw [Slot.field, RecordField.of]
      dsimp only
      rw [slot.form.decoder_of_writes writes]
      rfl
    have hfresh : seen.contains slot.name = false := by
      simpa using hseen slot.name (by simp)
    have hlater : ∀ name ∈ written, name ∉ slot.name :: seen := by
      intro name hname
      have hne : name ≠ slot.name := by
        rintro rfl
        exact once hname
      simpa [hne] using hseen name (List.mem_cons_of_mem _ hname)
    obtain ⟨r', hr', hget⟩ := ih (slot.name :: seen) hlater (slot.set (slot.get r) s)
    refine ⟨r', ?_, fun t ht => ?_⟩
    · rw [putMembers, stringOf?_of_spells spells]
      dsimp only
      rw [find?_field h.nodup mem]
      dsimp only
      rw [hfresh, hput]
      exact hr'
    · rw [hget t ht]
      by_cases hname : slot.name = t.name
      · obtain rfl : slot = t := List.inj_on_of_nodup_map h.nodup mem ht hname
        simp [once, slot.get_set]
      · simp [Ne.symm hname, h.get_set_of_ne slot mem t ht hname]
  | @unknown name unknown key spells v s' writes written members rest ih =>
    obtain ⟨r', hr', hget⟩ := ih seen hseen s
    refine ⟨r', ?_, hget⟩
    rw [putMembers, stringOf?_of_spells spells]
    dsimp only
    rw [find?_field_eq_none unknown]
    dsimp only
    rw [skip?_of_writesString writes]
    exact hr'

/-- **A record is read back from any object that writes it.** -/
theorem record_of_writesRecord (h : MakeUp slots) {defaults r : σ} {v : Value}
    (hwrites : WritesRecord slots defaults v r) (what : String) :
    Decoder.record what (slots.map Slot.field) defaults v = .ok r := by
  cases hwrites with
  | of writes default =>
    obtain ⟨r', hr', hget⟩ := putMembers_of_writesMembers h writes [] (by simp) defaults
    have hrr' : r' = r := by
      refine h.ext r' r fun t ht => ?_
      rw [hget t ht]
      split
      · rfl
      · next hname => exact (default t ht hname).symm
    rw [Decoder.record, hr', hrr']

theorem WritesMembers.isWritten {r : σ} {written : List String}
    {members : List (List Piece × Value)} (h : WritesMembers slots r written members) :
    ∀ m ∈ members, (∃ name, Spells m.1 name) ∧ ∀ t ∈ m.2.tokens, t.IsWritten := by
  induction h with
  | nil => simp
  | @field slot mem key spells v writes written members once rest ih =>
    exact List.forall_mem_cons.mpr
      ⟨⟨⟨slot.name, spells⟩, slot.form.isWritten_of_writes writes⟩, ih⟩
  | @unknown name unknown key spells v s writes written members rest ih =>
    exact List.forall_mem_cons.mpr ⟨⟨⟨name, spells⟩, isWritten_of_writesString writes⟩, ih⟩

theorem isWritten_of_writesRecord {defaults r : σ} {v : Value}
    (h : WritesRecord slots defaults v r) : ∀ t ∈ v.tokens, t.IsWritten := by
  cases h with
  | of writes _ =>
    rw [Value.tokens]
    exact List.forall_mem_cons.mpr ⟨.mark rfl, Value.isWritten_memberTokens writes.isWritten⟩

/-- **Every record can be written**, by leaving nothing out. -/
theorem exists_writesRecord (h : MakeUp slots) (defaults r : σ) :
    ∃ v, WritesRecord slots defaults v r := by
  have hmembers (some : List (Slot σ)) (hsub : some ⊆ slots) (hnodup : (some.map Slot.name).Nodup) :
      ∃ members, WritesMembers slots r (some.map Slot.name) members := by
    induction some with
    | nil => exact ⟨[], .nil⟩
    | cons slot some ih =>
      rw [List.cons_subset] at hsub
      rw [List.map_cons, List.nodup_cons] at hnodup
      obtain ⟨members, hmembers⟩ := ih hsub.2 hnodup.2
      obtain ⟨key, hkey⟩ := exists_spells slot.name
      obtain ⟨v, hv⟩ := slot.form.exists_writes (slot.get r)
      exact ⟨(key, v) :: members, .field hsub.1 hkey hv hnodup.1 hmembers⟩
  obtain ⟨members, hmembers⟩ := hmembers slots (List.Subset.refl slots) h.nodup
  exact ⟨.object members, .of hmembers fun t ht hname => absurd (List.mem_map_of_mem ht) hname⟩

/-- The form of a record. -/
def Form.record (what : String) (slots : List (Slot σ)) (h : MakeUp slots) (defaults : σ) :
    Form σ where
  decoder := .record what (slots.map Slot.field) defaults
  Writes := WritesRecord slots defaults
  decoder_of_writes hwrites := record_of_writesRecord h hwrites what
  isWritten_of_writes := isWritten_of_writesRecord
  exists_writes := exists_writesRecord h defaults

end GpuMetrics.Json5
