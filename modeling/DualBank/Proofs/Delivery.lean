import DualBank.Proofs.Scene

/-! What a download delivers, told from what the place it comes from answered. -/

namespace DualBank

abbrev Verdict.taken : Verdict := ⟨.ok (), false⟩

theorem Verdict.error_ne_taken (error : UpdateError) (aborted : Bool) :
    (⟨.error error, aborted⟩ : Verdict) ≠ .taken := by
  simp

theorem Verdict.taken_iff {verdict : Verdict} :
    (verdict.result.isOk && !verdict.aborted) = true ↔ verdict = .taken := by
  obtain ⟨result, aborted⟩ := verdict
  cases result <;> simp [Except.isOk, Except.toBool]

namespace Source

structure Exchange where
  call : Call
  reply : Reply call

end Source

/-- While these are the answers of the place it comes from, a download whose chunks are all taken
hands over this image and ends well. -/
inductive Download.Delivers : Download → List Source.Exchange → Bytes → Prop
  | done : Delivers (.done (.ok ())) [] []
  | deliver {chunk : Chunk} {next : Verdict → Download} {answers : List Source.Exchange}
      {image : Bytes} : Delivers (next ⟨.ok (), false⟩) answers image →
      Delivers (.ask (.deliver chunk) next) answers (chunk.data ++ image)
  | source {call : Source.Call} {reply : Source.Reply call} {next : Source.Reply call → Download}
      {answers : List Source.Exchange} {image : Bytes} : Delivers (next reply) answers image →
      Delivers (.ask (.source call) next) (⟨call, reply⟩ :: answers) image

namespace Download

inductive Hands : Download → List Source.Exchange → List Chunk → Prop
  | done : Hands (.done (.ok ())) [] []
  | deliver {chunk : Chunk} {next : Verdict → Download} {answers : List Source.Exchange}
      {chunks : List Chunk} : Hands (next ⟨.ok (), false⟩) answers chunks →
      Hands (.ask (.deliver chunk) next) answers (chunk :: chunks)
  | source {call : Source.Call} {reply : Source.Reply call} {next : Source.Reply call → Download}
      {answers : List Source.Exchange} {chunks : List Chunk} : Hands (next reply) answers chunks →
      Hands (.ask (.source call) next) (⟨call, reply⟩ :: answers) chunks

/-- A download that stops at the first chunk that is refused, and reports what the refusal said. -/
def Obeys : Download → Prop
  | .done _ => True
  | .ask (.source _) next => ∀ reply, Obeys (next reply)
  | .ask (.deliver _) next =>
      (∀ error aborted, next ⟨.error error, aborted⟩ = .done (.error error)) ∧
        ∀ aborted, Obeys (next ⟨.ok (), aborted⟩)

def ofChunks (result : Except UpdateError Unit) : List Chunk → Download
  | [] => .done result
  | chunk :: rest => .ask (.deliver chunk) fun verdict =>
      match verdict.result with
      | .ok () => ofChunks result rest
      | .error error => .done (.error error)

theorem obeys_ofChunks (result : Except UpdateError Unit) (chunks : List Chunk) :
    (ofChunks result chunks).Obeys := by
  induction chunks with
  | nil => trivial
  | cons chunk rest ih => exact ⟨fun _ _ => rfl, fun _ => ih⟩

end Download

structure Transfer where
  download : Download
  answers : List Source.Exchange

namespace Transfer

def Delivered (transfer : Option Transfer) (image : Bytes) : Prop :=
  ∃ latest, transfer = some latest ∧ latest.download.Delivers latest.answers image

def Reached (transfer : Option Transfer) (rest : Download) (image : Bytes) : Prop :=
  ∃ latest, transfer = some latest ∧ ∀ answers remaining, rest.Delivers answers remaining →
    latest.download.Delivers (latest.answers ++ answers) (image ++ remaining)

def step (transfer : Option Transfer) : Happening → Option Transfer
  | .exchange (.device (.download ..)) download => some ⟨download, []⟩
  | .exchange (.device (.source call)) reply =>
      transfer.map fun latest => ⟨latest.download, latest.answers ++ [⟨call, reply⟩]⟩
  | _ => transfer

def latest (history : List Happening) : Option Transfer :=
  history.foldl step none

theorem latest_append (history : List Happening) (happening : Happening) :
    latest (history ++ [happening]) = step (latest history) happening := by
  rw [latest, List.foldl_append]
  rfl

variable {transfer : Option Transfer} {image : Bytes}

theorem reached_start (download : Download) : Reached (some ⟨download, []⟩) download [] :=
  ⟨_, rfl, fun _ _ delivers => delivers⟩

theorem delivered_of_reached (reached : Reached transfer (.done (.ok ())) image) :
    Delivered transfer image := by
  obtain ⟨latest, rfl, onward⟩ := reached
  refine ⟨latest, rfl, ?_⟩
  simpa using onward [] [] .done

theorem reached_deliver {chunk : Chunk} {next : Verdict → Download}
    (reached : Reached transfer (.ask (.deliver chunk) next) image) :
    Reached transfer (next ⟨.ok (), false⟩) (image ++ chunk.data) := by
  obtain ⟨latest, rfl, onward⟩ := reached
  refine ⟨latest, rfl, fun answers remaining delivers => ?_⟩
  rw [List.append_assoc]
  exact onward answers _ (.deliver delivers)

theorem reached_source {call : Source.Call} {next : Source.Reply call → Download}
    (reached : Reached transfer (.ask (.source call) next) image) (reply : Source.Reply call) :
    Reached (step transfer (.exchange (.device (.source call)) reply)) (next reply) image := by
  obtain ⟨latest, rfl, onward⟩ := reached
  refine ⟨_, rfl, fun answers remaining delivers => ?_⟩
  rw [List.append_assoc]
  exact onward _ remaining (.source delivers)

section Chunks

variable {chunks : List Chunk}

def HandedOver (transfer : Option Transfer) (chunks : List Chunk) : Prop :=
  ∃ latest, transfer = some latest ∧ latest.download.Hands latest.answers chunks

def Handing (transfer : Option Transfer) (rest : Download) (chunks : List Chunk) : Prop :=
  ∃ latest, transfer = some latest ∧ ∀ answers remaining, rest.Hands answers remaining →
    latest.download.Hands (latest.answers ++ answers) (chunks ++ remaining)

theorem handing_start (download : Download) : Handing (some ⟨download, []⟩) download [] :=
  ⟨_, rfl, fun _ _ hands => hands⟩

theorem handedOver_of_handing (handing : Handing transfer (.done (.ok ())) chunks) :
    HandedOver transfer chunks := by
  obtain ⟨latest, rfl, onward⟩ := handing
  refine ⟨latest, rfl, ?_⟩
  simpa using onward [] [] .done

theorem handing_deliver {chunk : Chunk} {next : Verdict → Download}
    (handing : Handing transfer (.ask (.deliver chunk) next) chunks) :
    Handing transfer (next ⟨.ok (), false⟩) (chunks ++ [chunk]) := by
  obtain ⟨latest, rfl, onward⟩ := handing
  refine ⟨latest, rfl, fun answers remaining hands => ?_⟩
  rw [List.append_assoc]
  exact onward answers _ (.deliver hands)

theorem handing_source {call : Source.Call} {next : Source.Reply call → Download}
    (handing : Handing transfer (.ask (.source call) next) chunks) (reply : Source.Reply call) :
    Handing (step transfer (.exchange (.device (.source call)) reply)) (next reply) chunks := by
  obtain ⟨latest, rfl, onward⟩ := handing
  refine ⟨_, rfl, fun answers remaining hands => ?_⟩
  rw [List.append_assoc]
  exact onward _ remaining (.source hands)

/-- This image is all that was handed over. It is not empty, and as long as the last chunk
announced, as far as a word can tell. -/
def Whole (transfer : Option Transfer) (image : Bytes) : Prop :=
  ∃ chunks last, HandedOver transfer chunks ∧ image = chunks.flatMap Chunk.data ∧ image ≠ [] ∧
    chunks.getLast? = some last ∧ UInt64.ofNat image.length = last.total

end Chunks

end Transfer

end DualBank
