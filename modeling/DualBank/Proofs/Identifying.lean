import DualBank.Proofs.Admitted
import Mathlib.Data.List.TakeWhile

/-! What identifier is read back of the bytes that are stored in its place, whatever they are. -/

namespace DualBank

open Surroundings

namespace Bytes

/-- The bytes before the first zero byte, or all of them where none is zero. -/
def IsOpening (front stored : Bytes) : Prop :=
  0 ∉ front ∧ (stored = front ∨ ∃ rest, stored = front ++ 0 :: rest)

variable {front stored : Bytes}

theorem takeWhile_of_isOpening (opening : IsOpening front stored) :
    stored.takeWhile (· ≠ 0) = front := by
  obtain ⟨noZero, whole⟩ := opening
  have nonzero : ∀ byte ∈ front, decide (byte ≠ 0) = true := by
    intro byte inside
    apply decide_eq_true
    rintro rfl
    exact noZero inside
  rcases whole with rfl | ⟨rest, rfl⟩
  · exact List.takeWhile_eq_self_iff.2 nonzero
  · rw [List.takeWhile_append_of_pos nonzero, List.takeWhile_cons_of_neg (by decide),
      List.append_nil]

theorem isOpening_takeWhile (stored : Bytes) : IsOpening (stored.takeWhile (· ≠ 0)) stored := by
  constructor
  · intro inside
    have nonzero := List.mem_takeWhile_imp inside
    simp at nonzero
  · induction stored with
    | nil => exact .inl rfl
    | cons byte rest ih =>
        by_cases zero : byte = 0
        · subst zero
          exact .inr ⟨rest, rfl⟩
        · rw [List.takeWhile_cons_of_pos (by simpa using zero)]
          rcases ih with whole | ⟨behind, parts⟩
          · exact .inl (congrArg _ whole)
          · exact .inr ⟨behind, congrArg _ parts⟩

theorem isOpening_iff : IsOpening front stored ↔ stored.takeWhile (· ≠ 0) = front := by
  constructor
  · exact takeWhile_of_isOpening
  · rintro rfl
    exact isOpening_takeWhile stored

end Bytes

namespace RequestId

variable {stored front : Bytes}

theorem decode?_eq_some_iff (stored : Bytes) (id : RequestId) :
    decode? stored = some id ↔ Bytes.IsOpening (Bytes.ofText id.text) stored := by
  rw [decode?, Option.bind_eq_some_iff, Bytes.isOpening_iff]
  constructor
  · rintro ⟨text, read, made⟩
    rw [Bytes.text?_eq_some_iff] at read
    rwa [← (ofText?_eq_some_iff text id).1 made]
  · intro same
    refine ⟨id.text, (Bytes.text?_eq_some_iff _ _).2 same, ?_⟩
    exact (ofText?_eq_some_iff id.text id).2 rfl

theorem decode?_eq_none_iff (opening : Bytes.IsOpening front stored) :
    decode? stored = none ↔ front.length ≠ 36 ∨ ∀ text, Bytes.ofText text ≠ front := by
  have known (id : RequestId) : decode? stored = some id ↔ Bytes.ofText id.text = front := by
    rw [decode?_eq_some_iff, Bytes.isOpening_iff, Bytes.takeWhile_of_isOpening opening, eq_comm]
  constructor
  · intro none
    by_cases width : front.length = 36
    · right
      rintro text rfl
      have found := (known ⟨text, width⟩).2 rfl
      simp [none] at found
    · exact .inl width
  · intro unread
    cases found : decode? stored with
    | none => rfl
    | some id =>
        have same := (known id).1 found
        rcases unread with short | other
        · rw [← same, Bytes.ofText_length] at short
          exact absurd id.width short
        · exact absurd same (other id.text)

theorem map_text_decode?_iff (stored : Bytes) (text : String) :
    (decode? stored).map RequestId.text = some text ↔
      text.utf8ByteSize = 36 ∧ Bytes.IsOpening (Bytes.ofText text) stored := by
  rw [Option.map_eq_some_iff]
  constructor
  · rintro ⟨id, found, rfl⟩
    exact ⟨id.width, (decode?_eq_some_iff stored id).1 found⟩
  · rintro ⟨width, opening⟩
    exact ⟨⟨text, width⟩, (decode?_eq_some_iff stored _).2 opening, rfl⟩

theorem decode?_encode_iff (id : RequestId) :
    decode? id.encode = some id ↔ 0 ∉ Bytes.ofText id.text := by
  rw [decode?_eq_some_iff]
  constructor
  · intro opening
    exact opening.1
  · intro noZero
    exact ⟨noZero, .inr ⟨[], rfl⟩⟩

end RequestId

namespace Record

variable {settings : SettingsTable} {slot : Slot} {last : Scene}
  {loaded : Except SettingsError Record}

theorem loaded_of_leads
    (leads : Scene.surroundings.Leads (load, ⟨settings, slot, []⟩) (.done loaded, last)) :
    loaded = .ok settings.record ∨ (∃ error, loaded = .error error) ∧ ¬ last.IsGranted := by
  obtain ⟨deeds, same, does, serves⟩ := Scene.does_of_leads leads
  rw [Scene.IsGranted, same]
  rw [← List.append_nil deeds] at serves
  obtain ⟨-, -, ⟨whole, -⟩ | ⟨refused, unread⟩⟩ := load_does does serves
  · exact .inl whole
  · refine .inr ⟨⟨_, refused⟩, fun granted => unread ?_⟩
    exact RequestId.wasRead_of_granted does granted

end Record

/-- Whatever bytes are stored as the identifier, it is read back just if they are its text, of 36
bytes and none of them zero, and then nothing or a zero byte and anything. Anything else that may
stand before the first zero byte is read as no identifier. -/
theorem stored_id_read_exactly (settings : SettingsTable) (slot : Slot) {stored : Bytes}
    (there : settings.load Record.space Record.idKey = some stored)
    {loaded : Except SettingsError Record} {last : Scene}
    (leads : Scene.surroundings.Leads (Record.load, ⟨settings, slot, []⟩) (.done loaded, last)) :
    (last.IsGranted → ∃ record, loaded = .ok record) ∧
    ∀ record, loaded = .ok record →
      (∀ text, record.id.map RequestId.text = some text ↔
        text.utf8ByteSize = 36 ∧ Bytes.IsOpening (Bytes.ofText text) stored) ∧
      (∀ text id, RequestId.ofText? text = some id → stored = id.encode →
        (record.id = some id ↔ 0 ∉ Bytes.ofText text)) ∧
      ∃ front, Bytes.IsOpening front stored ∧
        (record.id = none ↔ front.length ≠ 36 ∨ ∀ text, Bytes.ofText text ≠ front) := by
  have decoded : settings.record.id = RequestId.decode? stored := by
    simp [SettingsTable.record, Record.decode, there]
  rcases Record.loaded_of_leads leads with rfl | ⟨⟨error, rfl⟩, denied⟩
  · refine ⟨fun _ => ⟨_, rfl⟩, fun record same => ?_⟩
    cases same
    rw [decoded]
    refine ⟨RequestId.map_text_decode?_iff stored, ?_, ?_⟩
    · rintro text id made rfl
      rw [RequestId.decode?_encode_iff, (RequestId.ofText?_eq_some_iff text id).1 made]
    · have opening := Bytes.isOpening_takeWhile stored
      exact ⟨_, opening, RequestId.decode?_eq_none_iff opening⟩
  · refine ⟨fun granted => absurd granted denied, fun record same => ?_⟩
    contradiction

namespace Setup

def litteredId : Bytes :=
  Bytes.ofText Request.sample.uuid ++ [0, 0xff, 0x31]

def litteredSettings : SettingsTable :=
  SettingsTable.empty.save Record.space Record.idKey litteredId

def litteredTrial : Trial :=
  ⟨{ Bench.fresh with settings := litteredSettings }, .idle, []⟩

end Setup

open Setup

theorem stored_id_read_exactly_littered :
    litteredSettings.load Record.space Record.idKey = some litteredId ∧
      ∃ record last,
        Scene.surroundings.Leads (Record.load, ⟨litteredSettings, .idle, []⟩)
          (.done (.ok record), last) ∧
        last.IsGranted ∧ record.id.map RequestId.text = some Request.sample.uuid := by
  have there : litteredSettings.load Record.space Record.idKey = some litteredId := by
    decide +kernel
  have leads := Trial.leads_answered (fun _ => false) Record.load litteredTrial
  have unrefused : (Record.load.run (Trial.answerUntil fun _ => false)
      litteredTrial).2.scene.deeds.any Happening.isDenial = false := by decide +kernel
  obtain ⟨answers, reads⟩ := stored_id_read_exactly litteredSettings .idle there leads
  obtain ⟨record, whole⟩ := answers unrefused
  rw [whole] at leads
  have opening : Bytes.IsOpening (Bytes.ofText Request.sample.uuid) litteredId :=
    ⟨by decide +kernel, .inr ⟨[0xff, 0x31], rfl⟩⟩
  refine ⟨there, record, _, leads, unrefused, ?_⟩
  exact ((reads record whole).1 _).2 ⟨by decide +kernel, opening⟩

end DualBank
