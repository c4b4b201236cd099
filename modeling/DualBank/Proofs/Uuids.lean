import DualBank.Proofs.Spelling
import DualBank.RequestId

/-! What the check of the identifier of a request lets through, text by text. -/

namespace DualBank

def IsHexDigit (character : Char) : Prop :=
  ('0' ≤ character ∧ character ≤ '9') ∨ ('A' ≤ character ∧ character ≤ 'F') ∨
    ('a' ≤ character ∧ character ≤ 'f')

/-- Digits in groups of 8, 4, 4, 4 and 12, with a dash between two groups. -/
def IsUuid (text : String) : Prop :=
  ∃ groups : List String, groups.map String.length = [8, 4, 4, 4, 12] ∧
    (∀ group ∈ groups, ∀ character ∈ group.toList, IsHexDigit character) ∧
    text = "-".intercalate groups

namespace Uuid

def Divides (place : Nat) : Prop :=
  place = 8 ∨ place = 13 ∨ place = 18 ∨ place = 23

instance (place : Nat) : Decidable (Divides place) :=
  inferInstanceAs (Decidable (_ ∨ _))

def Fits (place : Nat) (character : Char) : Prop :=
  if Divides place then character = '-' else IsHexDigit character

variable {place start length : Nat} {character : Char} {characters : List Char}

theorem isHexDigit_iff : IsHexDigit character ↔
    48 ≤ character.toNat ∧ character.toNat ≤ 57 ∨
      65 ≤ character.toNat ∧ character.toNat ≤ 70 ∨
        97 ≤ character.toNat ∧ character.toNat ≤ 102 :=
  .rfl

theorem ascii_of_fits (fits : Fits place character) : character.toNat < 128 := by
  unfold Fits at fits
  split at fits
  · subst fits
    decide
  · rw [isHexDigit_iff] at fits
    omega

theorem ascii_of_isCanonicalAt {byte : UInt8} (allowed : isCanonicalAt place byte = true) :
    byte.toNat < 128 := by
  unfold isCanonicalAt at allowed
  split at allowed
  · rw [beq_iff_eq.1 allowed]
    decide
  · simp only [Bool.or_eq_true, Bool.and_eq_true, decide_eq_true_eq, UInt8.le_iff_toNat_le]
      at allowed
    simp at allowed
    omega

theorem isCanonicalAt_iff (ascii : character.toNat < 128) :
    isCanonicalAt place (UInt8.ofNat character.toNat) = true ↔ Fits place character := by
  have value : (UInt8.ofNat character.toNat).toNat = character.toNat := by
    simp only [UInt8.toNat_ofNat']
    omega
  have divides : (place = 8 || place = 13 || place = 18 || place = 23) =
      decide (Divides place) := by
    rw [Bool.eq_iff_iff, decide_eq_true_iff]
    simp [Divides, or_assoc]
  simp only [isCanonicalAt, Fits, divides, decide_eq_true_eq]
  split
  · rw [beq_iff_eq, ← UInt8.toNat_inj, value, ← Char.toNat_inj]
    rfl
  · simp only [Bool.or_eq_true, Bool.and_eq_true, decide_eq_true_eq, UInt8.le_iff_toNat_le, value,
      isHexDigit_iff, or_assoc]
    rfl

section Narrow

theorem ascii_of_narrow (narrow : ∀ byte ∈ Bytes.ofCharacters characters, byte.toNat < 128) :
    ∀ character ∈ characters, character.toNat < 128 := by
  intro character inside
  by_contra wide
  have filled : 0 < (String.utf8EncodeChar character).length := by
    rw [String.length_utf8EncodeChar]
    exact character.utf8Size_pos
  have first := List.getElem_mem filled
  have low := narrow _ (List.mem_flatMap.2 ⟨character, inside, first⟩)
  have high := Bytes.high_of_mem (Nat.not_lt.1 wide) first
  omega

theorem ofCharacters_of_ascii (ascii : ∀ character ∈ characters, character.toNat < 128) :
    Bytes.ofCharacters characters =
      characters.map fun character => UInt8.ofNat character.toNat := by
  induction characters with
  | nil => rfl
  | cons character rest ih =>
      have first := Bytes.utf8EncodeChar_of_lt (ascii character (.head _))
      have others := ih fun other inside => ascii other (.tail _ inside)
      rw [Bytes.ofCharacters, List.flatMap_cons, first, List.singleton_append, List.map_cons]
      exact congrArg _ others

end Narrow

def Fitted (start : Nat) (characters : List Char) : Prop :=
  ∀ place character, characters[place]? = some character → Fits (start + place) character

theorem all_isCanonicalAt (ascii : ∀ character ∈ characters, character.toNat < 128) :
    ((characters.map fun character => UInt8.ofNat character.toNat).zipIdx.all
      fun (byte, place) => isCanonicalAt place byte) = true ↔ Fitted 0 characters := by
  rw [List.all_eq_true]
  constructor
  · intro allowed place character found
    have inside := List.mem_of_getElem? found
    have there : (UInt8.ofNat character.toNat, place) ∈
        (characters.map fun character => UInt8.ofNat character.toNat).zipIdx := by
      rw [List.mem_zipIdx_iff_getElem?, List.getElem?_map, found]
      rfl
    rw [Nat.zero_add]
    exact (isCanonicalAt_iff (ascii character inside)).1 (allowed _ there)
  · rintro fitted ⟨byte, place⟩ there
    rw [List.mem_zipIdx_iff_getElem?, List.getElem?_map] at there
    obtain ⟨character, found, rfl⟩ := Option.map_eq_some_iff.1 there
    have fits := fitted place character found
    rw [Nat.zero_add] at fits
    exact (isCanonicalAt_iff (ascii_of_fits fits)).2 fits

/-- Byte by byte or character by character: a text that passes has no wide character. -/
theorem isCanonical_iff_fitted (text : String) :
    isCanonical text = true ↔ text.toList.length = 36 ∧ Fitted 0 text.toList := by
  have same (ascii : ∀ character ∈ text.toList, character.toNat < 128) :
      isCanonical text = true ↔ text.toList.length = 36 ∧ Fitted 0 text.toList := by
    rw [← all_isCanonicalAt ascii, isCanonical, Bytes.ofText_eq, ofCharacters_of_ascii ascii]
    simp
  constructor
  · intro canonical
    -- Places are counted in bytes here, and no byte that passes belongs to a wide character.
    refine (same (ascii_of_narrow fun byte inside => ?_)).1 canonical
    rw [← Bytes.ofText_eq] at inside
    simp only [isCanonical, Bool.and_eq_true, List.all_eq_true] at canonical
    obtain ⟨place, found⟩ := List.mem_iff_getElem?.1 inside
    exact ascii_of_isCanonicalAt
      (canonical.2 (byte, place) (List.mem_zipIdx_iff_getElem?.2 found))
  · intro holds
    refine (same fun character inside => ?_).2 holds
    obtain ⟨place, found⟩ := List.mem_iff_getElem?.1 inside
    exact ascii_of_fits (holds.2 place character found)

section Grouping

variable (digits : ∀ place, start ≤ place → place < start + length → ¬ Divides place)
  (divides : Divides (start + length))
include digits

theorem digits_of_fitted (fitted : Fitted start characters) (short : characters.length ≤ length) :
    ∀ character ∈ characters, IsHexDigit character := by
  intro character inside
  obtain ⟨place, found⟩ := List.mem_iff_getElem?.1 inside
  have within := (List.getElem?_eq_some_iff.1 found).1
  have fits := fitted place character found
  rwa [Fits, if_neg (digits _ (by omega) (by omega))] at fits

theorem fitted_of_digits (hex : ∀ character ∈ characters, IsHexDigit character)
    (short : characters.length ≤ length) : Fitted start characters := by
  intro place character found
  have within := (List.getElem?_eq_some_iff.1 found).1
  rw [Fits, if_neg (digits _ (by omega) (by omega))]
  exact hex character (List.mem_of_getElem? found)

include divides

/-- A group and the dash after it, and what is left. -/
theorem exists_group (fitted : Fitted start characters) (longer : length < characters.length) :
    ∃ group rest, characters = group ++ '-' :: rest ∧ group.length = length ∧
      (∀ character ∈ group, IsHexDigit character) ∧ Fitted (start + length + 1) rest := by
  have dash := fitted length _ (List.getElem?_eq_getElem longer)
  rw [Fits, if_pos divides] at dash
  have parts : characters = characters.take length ++ '-' :: characters.drop (length + 1) := by
    rw [← dash, ← List.drop_eq_getElem_cons longer, List.take_append_drop]
  have size : (characters.take length).length = length := by
    rw [List.length_take]
    omega
  refine ⟨_, _, parts, size, digits_of_fitted digits ?_ (Nat.le_of_eq size), ?_⟩
  · intro place character found
    rw [List.getElem?_take] at found
    split at found
    · exact fitted place character found
    · contradiction
  · intro place character found
    rw [List.getElem?_drop] at found
    have fits := fitted _ character found
    have sum : start + length + 1 + place = start + (length + 1 + place) := by omega
    rwa [sum]

theorem fitted_group {group rest : List Char} (size : group.length = length)
    (hex : ∀ character ∈ group, IsHexDigit character)
    (fitted : Fitted (start + length + 1) rest) :
    Fitted start (group ++ '-' :: rest) := by
  intro place character found
  rw [List.getElem?_append, size] at found
  split at found
  · exact fitted_of_digits digits hex (Nat.le_of_eq size) place character found
  · rename_i beyond
    rw [List.getElem?_cons] at found
    split at found
    · have here : place = length := by omega
      cases found
      rw [Fits, here, if_pos divides]
    · have fits := fitted _ character found
      have sum : start + length + 1 + (place - length - 1) = start + place := by omega
      rwa [sum] at fits

end Grouping

def Layout (start : Nat) : List Nat → Prop
  | [] => False
  | [last] => ∀ place, start ≤ place → place < start + last → ¬ Divides place
  | first :: rest =>
      (∀ place, start ≤ place → place < start + first → ¬ Divides place) ∧
        Divides (start + first) ∧ Layout (start + first + 1) rest

theorem fitted_iff {lengths : List Nat} (layout : Layout start lengths) :
    characters.length + 1 = (lengths.map (· + 1)).sum ∧ Fitted start characters ↔
      ∃ groups : List (List Char), groups.map List.length = lengths ∧
        (∀ group ∈ groups, ∀ character ∈ group, IsHexDigit character) ∧
        characters = ['-'].intercalate groups := by
  induction lengths generalizing start characters with
  | nil => exact layout.elim
  | cons length rest ih =>
      cases rest with
      | nil =>
          constructor
          · rintro ⟨size, fitted⟩
            have whole : characters.length = length := by simpa using size
            refine ⟨[characters], by simp [whole], ?_, by simp⟩
            simpa using digits_of_fitted layout fitted (Nat.le_of_eq whole)
          · rintro ⟨groups, sizes, hex, rfl⟩
            obtain ⟨group, rfl, size⟩ := List.map_eq_singleton_iff.1 sizes
            rw [List.intercalate_singleton]
            exact ⟨by simp [size],
              fitted_of_digits layout (hex group (.head _)) (Nat.le_of_eq size)⟩
      | cons second others =>
          obtain ⟨digits, divides, layout⟩ := layout
          constructor
          · rintro ⟨size, fitted⟩
            rw [List.map_cons, List.sum_cons] at size
            have longer : length < characters.length := by
              simp only [List.map_cons, List.sum_cons] at size
              omega
            obtain ⟨group, behind, rfl, groupSize, hex, fitted⟩ :=
              exists_group digits divides fitted longer
            have left : behind.length + 1 = ((second :: others).map (· + 1)).sum := by
              simp only [List.length_append, List.length_cons] at size
              omega
            obtain ⟨groups, sizes, othersHex, same⟩ := (ih layout).1 ⟨left, fitted⟩
            refine ⟨group :: groups, by simp [groupSize, sizes], ?_, ?_⟩
            · exact List.forall_mem_cons.2 ⟨hex, othersHex⟩
            · cases groups with
              | nil => simp at sizes
              | cons first rest => simp [same]
          · rintro ⟨groups, sizes, hex, rfl⟩
            obtain ⟨group, onward, rfl, size, sizes⟩ := List.map_eq_cons_iff.1 sizes
            obtain ⟨first, rest, rfl, -, -⟩ := List.map_eq_cons_iff.1 sizes
            obtain ⟨groupHex, othersHex⟩ := List.forall_mem_cons.1 hex
            obtain ⟨left, fitted⟩ := (ih layout).2 ⟨_, sizes, othersHex, rfl⟩
            rw [List.intercalate_cons_cons]
            refine ⟨?_, ?_⟩
            · rw [List.map_cons, List.sum_cons, ← left]
              simp [size]
              omega
            · simpa using fitted_group digits divides size groupHex fitted

theorem layout_groups : Layout 0 [8, 4, 4, 4, 12] := by
  refine ⟨?_, .inl rfl, ?_, .inr (.inl rfl), ?_, .inr (.inr (.inl rfl)), ?_,
    .inr (.inr (.inr rfl)), ?_⟩
  all_goals
    intro place
    unfold Divides
    omega

end Uuid

open Uuid

/-- The check goes through the bytes of a text, and yet it is the grammar of UUIDs: no text with a
wide character passes. -/
theorem isCanonical_iff (text : String) : isCanonical text = true ↔ IsUuid text := by
  have size : text.toList.length = 36 ↔
      text.toList.length + 1 = ([8, 4, 4, 4, 12].map (· + 1)).sum := by simp
  rw [isCanonical_iff_fitted, size, fitted_iff layout_groups]
  constructor
  · rintro ⟨groups, sizes, hex, same⟩
    refine ⟨groups.map String.ofList, ?_, ?_, ?_⟩
    · rw [← sizes, List.map_map]
      exact List.map_congr_left fun group _ => String.length_ofList
    · intro group inside
      obtain ⟨characters, there, rfl⟩ := List.mem_map.1 inside
      simpa using hex characters there
    · rw [← String.toList_inj, same]
      simp [String.toList_intercalate]
  · rintro ⟨groups, sizes, hex, rfl⟩
    refine ⟨groups.map String.toList, ?_, ?_, ?_⟩
    · rw [← sizes, List.map_map]
      exact List.map_congr_left fun group _ => String.length_toList
    · simpa using hex
    · simp [String.toList_intercalate]

end DualBank
