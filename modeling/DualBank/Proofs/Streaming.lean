import DualBank.FileSource
import DualBank.Proofs.Delivery

/-! A file that is delivered in chunks. However short the reads are, every chunk says how much of
the file has come with it, and the one that comes with the end of the file is the last. -/

namespace DualBank

open Program Surroundings

namespace FileSource

/-- A file that does not change, and a handler: these are the verdicts it may give on the last of
the chunks that it has been handed. -/
structure Supply where
  path : String
  content : Bytes
  timeout : UInt64
  judges : List Chunk → Verdict → Prop

structure Reading where
  rest : Bytes
  started : Option Nat
  delivered : List (Chunk × Verdict)

namespace Reading

def unread : Reading := ⟨[], none, []⟩

def chunks (reading : Reading) : List Chunk :=
  reading.delivered.map Prod.fst

def image (reading : Reading) : Bytes :=
  reading.chunks.flatMap Chunk.data

theorem chunks_append (reading : Reading) (chunk : Chunk) (verdict : Verdict) :
    Reading.chunks { reading with delivered := reading.delivered ++ [(chunk, verdict)] } =
      reading.chunks ++ [chunk] := by
  simp [Reading.chunks]

theorem image_append (reading : Reading) (chunk : Chunk) (verdict : Verdict) :
    Reading.image { reading with delivered := reading.delivered ++ [(chunk, verdict)] } =
      reading.image ++ chunk.data := by
  rw [Reading.image, chunks_append, List.flatMap_append, List.flatMap_singleton, Reading.image]

end Reading

namespace Supply

-- A read may return less than it was asked for, but nothing only where nothing is left. The
-- timeout is not reached.
def Answers (supply : Supply) :
    (call : Download.Call) → Reading → Download.Reply call → Reading → Prop
  | .source (.openFile path), before, reply, after => path = supply.path ∧
      reply = .ok (.ofNat supply.content.length) ∧ after = { before with rest := supply.content }
  | .source (.read limit), before, reply, after => ∃ data rest, reply = .ok data ∧
      before.rest = data ++ rest ∧ data.length ≤ limit.toNat ∧ (data = [] → rest = []) ∧
        after = { before with rest := rest }
  | .source .elapsed, before, now, after => match before.started with
      | none => after = { before with started := some now }
      | some started => now - started ≤ supply.timeout.toNat * 1000000 ∧ after = before
  | .source (.log _), before, _, after => after = before
  | .deliver chunk, before, verdict, after => supply.judges (before.chunks ++ [chunk]) verdict ∧
      after = { before with delivered := before.delivered ++ [(chunk, verdict)] }

abbrev surroundings (supply : Supply) : Surroundings Download.interface where
  State := Reading
  Moves _ _ := False
  Answers := supply.Answers

theorem still (supply : Supply) : supply.surroundings.Still :=
  fun _ _ impossible => impossible

def Guards (supply : Supply) : Download.Call → Reading → Prop
  | .source (.openFile path), _ => path = supply.path
  | .source (.read limit), _ => 0 < limit.toNat
  | _, _ => True

theorem answerable {supply : Supply}
    (decides : ∀ chunks, ∃ verdict, supply.judges chunks verdict) (call : Download.Call)
    (reading : Reading) (guarded : supply.Guards call reading) :
    ∃ reply after, supply.surroundings.Answers call reading reply after := by
  cases call with
  | deliver chunk =>
      obtain ⟨verdict, judged⟩ := decides (reading.chunks ++ [chunk])
      exact ⟨verdict, _, judged, rfl⟩
  | source call =>
      cases call with
      | openFile path => exact ⟨_, _, guarded, rfl, rfl⟩
      | read limit =>
          refine ⟨.ok (reading.rest.take limit.toNat), _, _, _, rfl,
            (List.take_append_drop ..).symm, List.length_take_le .., ?_, rfl⟩
          intro nothing
          rcases List.take_eq_nil_iff.1 nothing with zero | nothing
          · exact absurd zero (Nat.ne_of_gt guarded)
          · rw [nothing, List.drop_nil]
      | elapsed =>
          refine ⟨reading.started.getD 0, ?_⟩
          cases begun : reading.started with
          | none => exact ⟨{ reading with started := some 0 }, by simp [Answers, begun]⟩
          | some started => exact ⟨reading, by simp [Answers, begun]⟩
      | log record => exact ⟨(), reading, rfl⟩

end Supply

structure Portion (content : Bytes) (limit : Nat) (earlier : List Chunk) (chunk : Chunk) :
    Prop where
  received : chunk.received.toNat = ((earlier ++ [chunk]).flatMap Chunk.data).length
  total : chunk.total.toNat = content.length
  last : chunk.last = true ↔ ((earlier ++ [chunk]).flatMap Chunk.data).length = content.length
  short : chunk.data.length ≤ limit
  filled : chunk.data = [] → content = []

structure Portions (content : Bytes) (limit : Nat) (chunks : List Chunk) : Prop where
  each : ∀ earlier chunk, earlier ++ [chunk] <+: chunks → Portion content limit earlier chunk
  begins : chunks.flatMap Chunk.data <+: content

/-- This is what a transfer of the file ends with: only the last chunk can have been refused, or
have been the last of the file. -/
structure Streamed (supply : Supply) (limit : Nat) (result : Except UpdateError Unit)
    (reading : Reading) : Prop where
  portions : Portions supply.content limit reading.chunks
  judged : ∀ one ∈ reading.delivered, ∃ chunks, supply.judges chunks one.2
  ended : ∃ before chunk verdict, reading.delivered = before ++ [(chunk, verdict)] ∧
    (∀ one ∈ before, one.2 = .taken ∧ one.1.last = false) ∧ result = verdict.result ∧
      (verdict = .taken → chunk.last = true)

structure Midway (supply : Supply) (limit started received : Nat) (reading : Reading) : Prop where
  clock : reading.started = some started
  portions : Portions supply.content limit reading.chunks
  judged : ∀ one ∈ reading.delivered, ∃ chunks, supply.judges chunks one.2
  onward : ∀ one ∈ reading.delivered, one.2 = .taken ∧ one.1.last = false
  whole : reading.image ++ reading.rest = supply.content
  counted : received = reading.image.length
  more : reading.rest = [] → received = 0

section Stream

variable {supply : Supply} {limit started received : Nat} {reading : Reading}

theorem portions_append {content : Bytes} {chunks : List Chunk} {chunk : Chunk}
    (portions : Portions content limit chunks) (next : Portion content limit chunks chunk)
    (begins : (chunks ++ [chunk]).flatMap Chunk.data <+: content) :
    Portions content limit (chunks ++ [chunk]) := by
  refine ⟨fun earlier other within => ?_, begins⟩
  rcases List.prefix_concat_iff.1 within with same | within
  · obtain ⟨rfl, alike⟩ := List.append_inj' same rfl
    rw [List.cons.inj alike |>.1]
    exact next
  · exact portions.each earlier other within

variable (midway : Midway supply limit started received reading)
  (fits : supply.content.length < UInt64.size)
include midway fits

/-- The chunk that holds what was read next, and all that is known once it was judged. -/
theorem portions_deliver {data rest : Bytes} {last : Bool} (read : reading.rest = data ++ rest)
    (short : data.length ≤ limit) (filled : data = [] → supply.content = [])
    (complete : last = true ↔ supply.content.length ≤ received + data.length) :
    Portions supply.content limit (reading.chunks ++
      [⟨data, .ofNat (received + data.length), .ofNat supply.content.length, last⟩]) := by
  have parts : (reading.chunks.flatMap Chunk.data ++ data) ++ rest = supply.content := by
    rw [List.append_assoc, ← read]
    exact midway.whole
  have bounded : received + data.length ≤ supply.content.length := by
    rw [← parts, midway.counted, Reading.image]
    simp
  have counted : (UInt64.ofNat (received + data.length)).toNat = received + data.length :=
    UInt64.toNat_ofNat_of_lt' (Nat.lt_of_le_of_lt bounded fits)
  have sum : (reading.chunks.flatMap Chunk.data ++ data).length = received + data.length := by
    rw [midway.counted, Reading.image, List.length_append]
  refine portions_append midway.portions ?_ ?_
  · refine ⟨?_, UInt64.toNat_ofNat_of_lt' fits, ?_, short, filled⟩
    · rw [counted, List.flatMap_append, List.flatMap_singleton]
      exact sum.symm
    · have same : received + data.length = supply.content.length ↔
          supply.content.length ≤ received + data.length := by omega
      simpa [sum, same] using complete
  · simpa using ⟨rest, parts⟩

omit fits in
theorem midway_deliver {data rest : Bytes} {chunk : Chunk} (read : reading.rest = data ++ rest)
    (holds : chunk.data = data) (goesOn : chunk.last = false)
    (judged : supply.judges (reading.chunks ++ [chunk]) .taken)
    (portions : Portions supply.content limit (reading.chunks ++ [chunk]))
    (more : received + data.length < supply.content.length) :
    Midway supply limit started (received + data.length)
      { reading with rest := rest, delivered := reading.delivered ++ [(chunk, .taken)] } := by
  have chunks := Reading.chunks_append { reading with rest := rest } chunk .taken
  have image := Reading.image_append { reading with rest := rest } chunk .taken
  rw [holds] at image
  have whole : (reading.image ++ data) ++ rest = supply.content := by
    rw [List.append_assoc, ← read]
    exact midway.whole
  refine ⟨midway.clock, chunks ▸ portions, ?_, ?_, image ▸ whole, ?_, ?_⟩
  · simpa [or_imp, forall_and] using ⟨fun chunk verdict inside =>
      midway.judged (chunk, verdict) inside, _, judged⟩
  · simpa [or_imp, forall_and, goesOn] using midway.onward
  · rw [image, List.length_append, midway.counted]
    rfl
  · rintro rfl
    rw [← whole, midway.counted] at more
    simp at more

omit fits in
theorem streamed_deliver {chunk : Chunk} {verdict : Verdict} {rest : Bytes}
    (judged : supply.judges (reading.chunks ++ [chunk]) verdict)
    (portions : Portions supply.content limit (reading.chunks ++ [chunk]))
    (ends : verdict = .taken → chunk.last = true) :
    Streamed supply limit verdict.result
      { reading with rest := rest, delivered := reading.delivered ++ [(chunk, verdict)] } := by
  refine ⟨by simpa [Reading.chunks] using portions, ?_, ?_⟩
  · simpa [or_imp, forall_and] using ⟨fun chunk verdict inside =>
      midway.judged (chunk, verdict) inside, _, judged⟩
  · exact ⟨_, chunk, verdict, rfl, midway.onward, rfl, ends⟩

end Stream

section Runs

variable {supply : Supply} {limit started received : Nat} {reading : Reading}

theorem conclude_ensures {post : Except UpdateError Unit → Reading → Prop} (verdict : Verdict)
    (received : Nat) (holds : post verdict.result reading) :
    supply.surroundings.Ensures supply.Guards post (stream.conclude verdict received) reading := by
  obtain ⟨result, aborted⟩ := verdict
  cases result with
  | error error => exact supply.still.ensures_done holds
  | ok value =>
      cases aborted with
      | false => exact supply.still.ensures_done holds
      | true =>
          refine supply.still.ensures_ask trivial ?_
          rintro _ _ rfl
          exact supply.still.ensures_done holds

/-- The transfer is over with the last chunk, however it is judged. -/
theorem deliver_last (midway : Midway supply limit started received reading) {rest : Bytes}
    {chunk : Chunk} (portions : Portions supply.content limit (reading.chunks ++ [chunk]))
    (last : chunk.last = true) (sum : Nat) :
    supply.surroundings.Ensures supply.Guards (Streamed supply limit)
      (.ask (.deliver chunk) fun verdict => stream.conclude verdict sum)
      { reading with rest := rest } := by
  refine supply.still.ensures_ask trivial ?_
  rintro verdict _ ⟨judged, rfl⟩
  exact conclude_ensures verdict sum (streamed_deliver midway judged portions fun _ => last)

/-- What is left to be read gets less with every chunk that is taken. -/
theorem stream_ensures (fits : supply.content.length < UInt64.size) {limit : UInt64}
    (positive : 0 < limit.toNat) (midway : Midway supply limit.toNat started received reading) :
    supply.surroundings.Ensures supply.Guards (Streamed supply limit.toNat)
      (stream limit supply.timeout started supply.content.length received) reading := by
  induction left : reading.rest.length using Nat.strongRecOn
    generalizing reading received with
  | ind left ih =>
  subst left
  rw [stream]
  simp only [source, deliver, log, bind_eq, ask_bind, done_bind, pure_eq_done]
  refine supply.still.ensures_ask trivial ?_
  intro now after answers
  simp only [Supply.Answers, midway.clock] at answers
  obtain ⟨intime, same⟩ := answers
  rw [same, if_neg (Nat.not_lt.2 intime)]
  refine supply.still.ensures_ask positive ?_
  rintro _ _ ⟨data, rest, rfl, read, short, filled, rfl⟩
  have length : supply.content.length = received + data.length + rest.length := by
    rw [← midway.whole, read, midway.counted]
    simp [Nat.add_assoc]
  cases data with
  | nil =>
      -- The file is empty: the last of its bytes would have been the end of the loop.
      have nothing : reading.rest = [] := by rw [read, filled rfl, List.append_nil]
      have zero : received = 0 := midway.more nothing
      subst zero
      have empty : supply.content.length = 0 := by rw [length, filled rfl]; rfl
      dsimp only
      rw [if_pos rfl]
      have portions := portions_deliver midway fits read short
        (fun _ => List.length_eq_zero_iff.1 empty) (iff_of_true rfl (by simp [empty]))
      exact deliver_last midway portions rfl 0
  | cons byte bytes =>
      have some (nothing : byte :: bytes = []) : supply.content = [] := by simp at nothing
      dsimp only
      split
      · rename_i complete
        have portions := portions_deliver midway fits read short some (iff_of_true rfl complete)
        exact deliver_last midway portions rfl _
      · rename_i incomplete
        have portions := portions_deliver midway fits read short some
          (iff_of_false Bool.false_ne_true incomplete)
        refine supply.still.ensures_ask trivial ?_
        rintro verdict _ ⟨judged, rfl⟩
        split
        · rename_i accepted
          -- Only here does the loop go on, and something was read.
          obtain rfl := Verdict.taken_iff.1 accepted
          have less : rest.length < reading.rest.length := by
            rw [read, List.length_append, List.length_cons]
            omega
          exact ih _ less (midway_deliver midway read rfl rfl judged portions
            (Nat.lt_of_not_le incomplete)) rfl
        · rename_i refused
          exact conclude_ensures verdict _ (streamed_deliver midway judged portions
            fun accepted => absurd (Verdict.taken_iff.2 accepted) refused)

theorem ignoreHeaders_always (headers : List (String × String)) :
    (ignoreHeaders headers).Always
      (fun call => ∃ record, call = Download.Call.source (.log record)) fun _ => True := by
  induction headers with
  | nil => trivial
  | cons header rest ih => exact ⟨⟨_, rfl⟩, fun _ => ih⟩

theorem download_ensures (fits : supply.content.length < UInt64.size) (chunkSize : UInt64)
    {url : String} (headers : List (String × String)) (named : path? url = some supply.path) :
    supply.surroundings.Ensures supply.Guards (Streamed supply (max chunkSize 1).toNat)
      (download chunkSize url headers supply.timeout) .unread := by
  have some : 0 < (max chunkSize 1).toNat := by
    simp only [max]
    split
    · exact Nat.one_pos
    · rename_i large
      rw [UInt64.le_iff_toNat_le, Nat.not_le] at large
      exact Nat.lt_of_le_of_lt (Nat.zero_le _) large
  rw [download, named]
  simp only [source, bind_eq, ask_bind, done_bind]
  have ignored : supply.surroundings.Ensures supply.Guards
      (fun _ later => True ∧ later = .unread) (ignoreHeaders headers) .unread := by
    refine ensures_always (ignoreHeaders_always headers) (fun _ _ impossible => impossible.elim)
      ?_ ?_ rfl
    · rintro _ ⟨record, rfl⟩ before reply after rfl begun
      exact begun
    · rintro _ later ⟨record, rfl⟩ _
      trivial
  refine ensures_bind ignored ?_
  rintro _ _ ⟨_, rfl⟩
  refine supply.still.ensures_ask rfl ?_
  rintro _ _ ⟨_, rfl, rfl⟩
  refine supply.still.ensures_ask trivial ?_
  rintro started _ rfl
  have size : (UInt64.ofNat supply.content.length).toNat = supply.content.length :=
    UInt64.toNat_ofNat_of_lt' fits
  rw [size]
  refine stream_ensures fits some ⟨rfl, ⟨?_, List.nil_prefix⟩, nofun, nofun, rfl, rfl, fun _ => rfl⟩
  intro earlier chunk within
  simp [Reading.chunks, Reading.unread] at within

end Runs

namespace Streamed

variable {supply : Supply} {limit : Nat} {result : Except UpdateError Unit} {reading : Reading}
  (streamed : Streamed supply limit result reading)
include streamed

/-- A chunk that was not taken is the one that ended the transfer. -/
theorem refused {earlier : List (Chunk × Verdict)} {chunk : Chunk} {verdict : Verdict}
    (within : earlier ++ [(chunk, verdict)] <+: reading.delivered) (refused : verdict ≠ .taken) :
    reading.delivered = earlier ++ [(chunk, verdict)] ∧ result = verdict.result := by
  obtain ⟨before, final, ending, delivered, onward, rfl, _⟩ := streamed.ended
  rw [delivered] at within
  rcases List.prefix_concat_iff.1 within with same | inside
  · rw [delivered, same]
    obtain ⟨_, same⟩ := List.append_inj' same rfl
    cases (List.cons.inj same).1
    exact ⟨rfl, rfl⟩
  · exact absurd (onward (chunk, verdict) (inside.subset (by simp))).1 refused

/-- Where every chunk was taken, the final one says that it is the last, and no other does. -/
theorem closed (taken : ∀ one ∈ reading.delivered, one.2 = .taken) :
    result = .ok () ∧ ∃ before final, reading.chunks = before ++ [final] ∧ final.last = true ∧
      (∀ chunk ∈ before, chunk.last = false) ∧ Portion supply.content limit before final := by
  obtain ⟨before, final, verdict, delivered, onward, rfl, ends⟩ := streamed.ended
  have accepted : verdict = .taken := taken (final, verdict) (by simp [delivered])
  have chunks : reading.chunks = before.map Prod.fst ++ [final] := by
    simp [Reading.chunks, delivered]
  refine ⟨by rw [accepted], before.map Prod.fst, final, chunks, ends accepted, ?_, ?_⟩
  · intro chunk among
    obtain ⟨one, held, rfl⟩ := List.mem_map.1 among
    exact (onward one held).2
  · exact streamed.portions.each _ _ (chunks ▸ List.prefix_rfl)

/-- Where every chunk was taken, they make up the file, and only the final one says so. -/
theorem complete (taken : ∀ one ∈ reading.delivered, one.2 = .taken) :
    result = .ok () ∧ reading.image = supply.content ∧
      ∀ earlier chunk, earlier ++ [chunk] <+: reading.chunks →
        (chunk.last = true ↔ earlier ++ [chunk] = reading.chunks) := by
  obtain ⟨succeeded, before, final, chunks, last, onward, portion⟩ := streamed.closed taken
  have sum := portion.last.1 last
  rw [← chunks] at sum
  refine ⟨succeeded, streamed.portions.begins.eq_of_length sum, ?_⟩
  intro earlier chunk within
  rw [chunks] at within ⊢
  rcases List.prefix_concat_iff.1 within with same | inside
  · obtain ⟨_, alike⟩ := List.append_inj' same rfl
    refine iff_of_true ?_ same
    rw [(List.cons.inj alike).1]
    exact last
  · have among : chunk ∈ before := inside.subset (by simp)
    refine iff_of_false (by simp [onward chunk among]) fun same => ?_
    have longer := inside.length_le
    rw [same, List.length_append, List.length_singleton] at longer
    omega

theorem empty (taken : ∀ one ∈ reading.delivered, one.2 = .taken) (nothing : supply.content = []) :
    reading.chunks = [⟨[], 0, 0, true⟩] := by
  obtain ⟨_, image, only⟩ := streamed.complete taken
  cases delivered : reading.chunks with
  | nil =>
      obtain ⟨before, final, verdict, some, _⟩ := streamed.ended
      simp [Reading.chunks, some] at delivered
  | cons chunk rest =>
      have first : [] ++ [chunk] <+: reading.chunks := ⟨rest, by simp [delivered]⟩
      have portion := streamed.portions.each [] chunk first
      have blank : chunk.data = [] := by
        simp only [Reading.image, delivered, nothing, List.flatMap_cons] at image
        exact (List.append_eq_nil_iff.1 image).1
      have last : chunk.last = true := portion.last.2 (by simp [blank, nothing])
      have received : chunk.received = 0 :=
        UInt64.toNat_inj.1 (by simpa [blank] using portion.received)
      have total : chunk.total = 0 := UInt64.toNat_inj.1 (by simpa [nothing] using portion.total)
      rw [← delivered, ← (only [] chunk first).1 last, List.nil_append]
      obtain ⟨data, counted, announced, final⟩ := chunk
      cases blank
      cases received
      cases total
      cases last
      rfl

end Streamed

/-- A file is delivered to its end unless a chunk is refused, and then to that chunk, whose verdict
is the result. Every chunk says what has come of how much; none is too long, and none of a file that
holds something is empty. Where all are taken, they are the file, and the final one alone says that
it is the last; of an empty file there is one. -/
theorem file_streamed (supply : Supply) (fits : supply.content.length < UInt64.size)
    (chunkSize : UInt64) (url : String) (headers : List (String × String))
    (named : path? url = some supply.path) :
    ((∀ chunks, ∃ verdict, supply.judges chunks verdict) →
      ∃ result last, supply.surroundings.Leads
        (download chunkSize url headers supply.timeout, .unread) (.done result, last)) ∧
    ∀ result last, supply.surroundings.Leads
        (download chunkSize url headers supply.timeout, .unread) (.done result, last) →
      (∀ earlier chunk, earlier ++ [chunk] <+: last.chunks →
        chunk.received.toNat = ((earlier ++ [chunk]).flatMap Chunk.data).length ∧
        chunk.total.toNat = supply.content.length ∧
        chunk.data.length ≤ (max chunkSize 1).toNat ∧
        (supply.content ≠ [] → chunk.data ≠ [])) ∧
      ((∀ chunks verdict, supply.judges chunks verdict → verdict = .taken) →
        result = .ok () ∧ last.chunks.flatMap Chunk.data = supply.content ∧
        (∀ earlier chunk, earlier ++ [chunk] <+: last.chunks →
          (chunk.last = true ↔ earlier ++ [chunk] = last.chunks)) ∧
        (supply.content = [] → last.chunks = [⟨[], 0, 0, true⟩])) ∧
      ∀ earlier chunk verdict, earlier ++ [(chunk, verdict)] <+: last.delivered →
        verdict ≠ .taken →
          last.delivered = earlier ++ [(chunk, verdict)] ∧ result = verdict.result := by
  have ensured := download_ensures fits chunkSize headers named
  refine ⟨fun decides => ends_of_ensures (Supply.answerable decides) ensured, ?_⟩
  intro result last leads
  have streamed := (ensures_leads leads ensured).ended
  refine ⟨?_, fun accepts => ?_, fun earlier chunk verdict within => streamed.refused within⟩
  · intro earlier chunk within
    have portion := streamed.portions.each earlier chunk within
    have filled (some : supply.content ≠ []) : chunk.data ≠ [] :=
      fun nothing => some (portion.filled nothing)
    exact ⟨portion.received, portion.total, portion.short, filled⟩
  · have taken (one : Chunk × Verdict) (among : one ∈ last.delivered) : one.2 = .taken := by
      obtain ⟨chunks, judged⟩ := streamed.judged one among
      exact accepts chunks one.2 judged
    obtain ⟨succeeded, image, only⟩ := streamed.complete taken
    exact ⟨succeeded, image, only, streamed.empty taken⟩

def Supply.sample : Supply where
  path := "/tmp/image.bin"
  content := [1, 2, 3, 4, 5]
  timeout := 60000
  judges _ verdict := verdict = .taken

theorem file_streamed_sample :
    ∃ last : Reading, Supply.sample.surroundings.Leads
        (download 2 "file:///tmp/image.bin" [] 60000, .unread) (.done (.ok ()), last) ∧
      last.chunks.flatMap Chunk.data = [1, 2, 3, 4, 5] ∧
      ∀ earlier chunk, earlier ++ [chunk] <+: last.chunks →
        (chunk.last = true ↔ earlier ++ [chunk] = last.chunks) := by
  obtain ⟨ends, streamed⟩ := file_streamed Supply.sample (by decide) 2 "file:///tmp/image.bin" []
    (by decide +kernel)
  obtain ⟨result, last, leads⟩ := ends fun _ => ⟨.taken, rfl⟩
  obtain ⟨rfl, image, only, -⟩ := (streamed result last leads).2.1 fun _ _ judged => judged
  exact ⟨last, leads, image, only⟩

end FileSource

end DualBank
