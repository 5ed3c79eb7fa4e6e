import PpmlIot.Library.Runs
import PpmlIot.Signecc.Receive

/-!
# Bounds of the receive path

Which bytes of the receive buffer a call of `recv` uses.  The call stays inside the bytes it
received exactly when the driver delivered a frame that reaches beyond its header and, if it is
tagged as a reply, holds a whole signature and digest.  Inside these bounds nothing left in the
buffer by an earlier frame, and nothing behind the buffer, has any influence.
-/

namespace PpmlIot.Signecc

open Library

theorem read_not_mem_printBytes {use : Use} {start length : Nat} {bytes : List UInt8} :
    .read use start length ∉ printBytes bytes := by
  simp [printBytes]

theorem read_not_mem_sendFrame {net : Ieee802154} {driverSend : List UInt8 → List UInt8 → Int}
    {radios : Radios} {iface : Int} {dstPan : UInt16} {dst data : List UInt8} {use : Use}
    {start length : Nat} :
    .read use start length ∉ (sendFrame net driverSend radios iface dstPan dst data).actions := by
  unfold sendFrame
  split
  · simp
  · dsimp only
    split
    · simp [Action.say]
    · split <;> simp [Action.say]

theorem read_mem_printHeader {net : Ieee802154} {buffer : Memory} {use : Use}
    {start length : Nat} :
    .read use start length ∈ printHeader net buffer ↔ use = .header ∧ start = 0 ∧ length = 2 := by
  simp [printHeader, printFlag, Action.say]

theorem read_mem_printText {buffer : Memory} {mhrLen dataLen : Nat} {use : Use}
    {start length : Nat} :
    .read use start length ∈ printText buffer mhrLen dataLen ↔
      use = .printed ∧ length = 1 ∧ mhrLen ≤ start ∧ start < dataLen := by
  simp only [printText, List.mem_flatMap, List.mem_append, List.mem_cons, List.not_mem_nil,
    List.mem_range'_1, or_false, reduceCtorEq, Action.read.injEq]
  constructor
  · rintro ⟨i, ⟨above, below⟩, ⟨rfl, rfl, rfl⟩ | newline⟩
    · exact ⟨rfl, rfl, above, by omega⟩
    · split at newline <;> simp [Action.say] at newline
  · rintro ⟨rfl, rfl, above, below⟩
    exact ⟨start, ⟨above, by omega⟩, .inl ⟨rfl, rfl, rfl⟩⟩

theorem read_mem_requestToSign {crypto : Crypto} {net : Ieee802154} {call : RecvCall}
    {buffer : Memory} {radios : Radios} {mhrLen dataLen : Nat} {use : Use} {start length : Nat} :
    .read use start length ∈
        (requestToSign crypto net call buffer radios mhrLen dataLen).1 ↔
      use = .message ∧ start = mhrLen + 1 ∧
        length = sizeSub (sizeSub dataLen mhrLen) 1 % 256 := by
  have failure : .read use start length ∉
      if (call.uECCSign lPrivate1 lPublic1Front).isNone then
        [Action.say "\nSignature generated\n"] else [] := by
    split <;> simp [Action.say]
  simp only [requestToSign, send2, List.mem_append, List.mem_cons, List.not_mem_nil, Action.say,
    reduceCtorEq, Action.read.injEq, read_not_mem_printBytes, read_not_mem_sendFrame, or_false]
  simp only [Action.say] at failure
  simp only [failure, or_false]

theorem read_mem_signReceived {crypto : Crypto} {buffer : Memory} {mhrLen : Nat} {use : Use}
    {start length : Nat} :
    .read use start length ∈ signReceived crypto buffer mhrLen ↔
      use = .signature ∧ start = mhrLen + 1 ∧ length = 64 ∨
        use = .digest ∧ start = mhrLen + 64 + 1 ∧ length = 32 ∨
        use = .printed ∧ start = 0 ∧ length = 98 := by
  simp [signReceived, read_not_mem_printBytes, Action.say]

/-- Past the header check, the reads of a call are those of its header, dump, tag, branch and
text. -/
theorem read_mem_recv {crypto : Crypto} {net : Ieee802154} {node : NodeState} {call : RecvCall}
    {use : Use} {start length : Nat}
    (header : net.getFrameHdrLen (call.reception.store node.buffer) ≠ 0) :
    .read use start length ∈ (recv crypto net node call).actions ↔
      let buffer := call.reception.store node.buffer
      let mhrLen := net.getFrameHdrLen buffer
      let dataLen := call.reception.dataLen
      use = .header ∧ start = 0 ∧ length = 2 ∨
        use = .dump ∧ start = mhrLen ∧ length = sizeSub dataLen mhrLen ∨
        use = .tag ∧ start = mhrLen ∧ length = 1 ∨
        .read use start length ∈
          (handlePayload crypto net call buffer node.radios mhrLen dataLen).1 ∨
        use = .printed ∧ length = 1 ∧ mhrLen ≤ start ∧ start < dataLen := by
  simp [recv, header, read_mem_printHeader, read_mem_printText, Action.say]

/-- Every use of the buffer lies inside the `count` bytes received, and the lengths obtained by
subtraction are the true differences. -/
structure InBounds (count : Nat) (actions : List Action) : Prop where
  reads : ∀ use start length, .read use start length ∈ actions →
    ∀ index, start ≤ index → index < start + length → index < count
  /-- The dump starts at the payload and covers the rest of the frame. -/
  dump : ∀ start length : Nat, .read .dump start length ∈ actions →
    (length : Int) = count - start
  /-- The message starts behind the tag and covers the rest of the frame. -/
  message : ∀ start length : Nat, .read .message start length ∈ actions →
    (length : Int) = count - start

def reportedLen (net : Ieee802154) (node : NodeState) (call : RecvCall) : Nat :=
  net.getFrameHdrLen (call.reception.store node.buffer)

/-- The actions of a call are the same whatever the buffer held before. -/
def IgnoresOldBuffer (crypto : Crypto) (net : Ieee802154) (node : NodeState) (call : RecvCall) :
    Prop :=
  reportedLen net node call ≠ 0 → ∀ buffer : Memory,
    (recv crypto net { node with buffer } call).actions = (recv crypto net node call).actions

/-- The frame reaches beyond its header and, tagged as a reply, holds signature and digest. -/
def CompleteFrame (net : Ieee802154) (node : NodeState) (call : RecvCall) : Prop :=
  let mhrLen := reportedLen net node call
  mhrLen = 0 ∨ mhrLen < call.reception.count ∧
    (call.reception.store node.buffer mhrLen = 0xFE →
      mhrLen + 1 + 64 + 32 ≤ call.reception.count)

instance (net : Ieee802154) (node : NodeState) (call : RecvCall) :
    Decidable (CompleteFrame net node call) :=
  inferInstanceAs (Decidable (_ ∨ _ ∧ (_ → _)))

/-- A driver error counts as nothing received, so a call that received something has a frame. -/
theorem exists_frame_of_count_pos {reception : Reception} (positive : 0 < reception.count) :
    ∃ bytes fits, reception = .frame bytes fits := by
  cases reception with
  | error => exact absurd positive (Nat.lt_irrefl 0)
  | frame bytes fits => exact ⟨bytes, fits, rfl⟩

/-- What the branch taken for a complete frame reads. -/
theorem branch_reads {crypto : Crypto} {net : Ieee802154} {call : RecvCall} {buffer : Memory}
    {radios : Radios} {mhrLen count : Nat} (header : mhrLen ≠ 0) (tag_inside : mhrLen < count)
    (count_le : count ≤ maxPktLength)
    (reply : buffer mhrLen = 0xFE → mhrLen + 1 + 64 + 32 ≤ count) {use : Use} {start length : Nat}
    (member : .read use start length ∈
      (handlePayload crypto net call buffer radios mhrLen count).1) :
    start + length ≤ count ∧ use ≠ .dump ∧ (use = .message → start + length = count) := by
  unfold handlePayload at member
  split at member
  · rw [read_mem_requestToSign, msgSize_eq tag_inside count_le] at member
    obtain ⟨rfl, rfl, rfl⟩ := member
    exact ⟨by omega, by decide, fun _ => by omega⟩
  · split at member
    · rename_i tagged
      have whole := reply tagged
      rw [read_mem_signReceived] at member
      rcases member with ⟨rfl, rfl, rfl⟩ | ⟨rfl, rfl, rfl⟩ | ⟨rfl, rfl, rfl⟩ <;>
        exact ⟨by omega, by decide, fun impossible => by cases impossible⟩
    · simp [Action.say] at member

/-- What a call reads for a complete frame whose header is accepted. -/
theorem complete_reads {crypto : Crypto} {net : Ieee802154} {node : NodeState} {call : RecvCall}
    (complete : CompleteFrame net node call) (header : reportedLen net node call ≠ 0)
    {use : Use} {start length : Nat}
    (member : .read use start length ∈ (recv crypto net node call).actions) :
    start + length ≤ call.reception.count ∧
      (use = .dump ∨ use = .message → start + length = call.reception.count) := by
  obtain ⟨beyond, reply⟩ := complete.resolve_left header
  obtain ⟨bytes, fits, frame⟩ := exists_frame_of_count_pos (Nat.zero_lt_of_lt beyond)
  have dataLen_eq : call.reception.dataLen = call.reception.count := by
    rw [frame]
    rfl
  have count_le : call.reception.count ≤ maxPktLength := by
    rw [frame]
    exact fits
  have difference := sizeSub_of_le beyond.le (by rw [maxPktLength] at count_le; omega)
  rw [reportedLen] at header beyond reply difference
  rw [read_mem_recv header] at member
  simp only [dataLen_eq, difference] at member
  rcases member with ⟨rfl, rfl, rfl⟩ | ⟨rfl, rfl, rfl⟩ | ⟨rfl, rfl, rfl⟩ | branch |
    ⟨rfl, rfl, -, inside⟩
  · exact ⟨by omega, by simp⟩
  · exact ⟨by omega, fun _ => by omega⟩
  · exact ⟨by omega, by simp⟩
  · obtain ⟨inside, not_dump, message⟩ := branch_reads header beyond count_le reply branch
    exact ⟨inside, fun use => use.elim (absurd · not_dump) message⟩
  · exact ⟨by omega, by simp⟩

theorem inBounds_of_completeFrame {crypto : Crypto} {net : Ieee802154} {node : NodeState}
    {call : RecvCall} (complete : CompleteFrame net node call) :
    InBounds call.reception.count (recv crypto net node call).actions := by
  by_cases header : reportedLen net node call = 0
  · rw [reportedLen] at header
    have actions : (recv crypto net node call).actions =
        [.say "\n", .say "Unexpected MHR for incoming packet\n"] := by simp [recv, header]
    constructor <;> intros <;> simp_all [Action.say]
  · constructor
    · intro use start length member index above below
      have inside := (complete_reads complete header member).1
      omega
    · intro start length member
      have whole := (complete_reads complete header member).2 (.inl rfl)
      omega
    · intro start length member
      have whole := (complete_reads complete header member).2 (.inr rfl)
      omega

theorem completeFrame_of_inBounds {crypto : Crypto} {net : Ieee802154} {node : NodeState}
    {call : RecvCall}
    (bounded : InBounds call.reception.count (recv crypto net node call).actions) :
    CompleteFrame net node call := by
  by_cases header : net.getFrameHdrLen (call.reception.store node.buffer) = 0
  · exact .inl header
  · right
    have tag_read : .read .tag (reportedLen net node call) 1 ∈
        (recv crypto net node call).actions :=
      (read_mem_recv header).mpr (.inr (.inr (.inl ⟨rfl, rfl, rfl⟩)))
    have tag_inside := bounded.reads .tag _ 1 tag_read _ le_rfl (Nat.lt_succ_self _)
    refine ⟨tag_inside, fun tagged => ?_⟩
    have branch : .read .digest (reportedLen net node call + 64 + 1) 32 ∈
        (handlePayload crypto net call (call.reception.store node.buffer) node.radios
          (reportedLen net node call) call.reception.dataLen).1 := by
      rw [handlePayload, if_neg (by rw [tagged]; decide), if_pos tagged]
      exact read_mem_signReceived.mpr (.inr (.inl ⟨rfl, rfl, rfl⟩))
    have last := bounded.reads .digest _ 32
      ((read_mem_recv header).mpr (.inr (.inr (.inr (.inl branch)))))
      (reportedLen net node call + 64 + 32) (by omega) (by omega)
    omega

/-- A complete frame determines the buffer as far as the call looks. -/
theorem store_congr {reception : Reception} {first second : Memory} {index : Nat}
    (inside : index < reception.count) :
    reception.store first index = reception.store second index := by
  obtain ⟨bytes, fits, rfl⟩ := exists_frame_of_count_pos (Nat.zero_lt_of_lt inside)
  have inside' : index - 0 < bytes.length := inside
  simp only [Reception.store]
  rw [Memory.write_apply (by omega) inside', Memory.write_apply (by omega) inside']

theorem printHeader_congr {net : Ieee802154} {left right : Memory}
    (dst : net.getDst left = net.getDst right) (src : net.getSrc left = net.getSrc right)
    (seq : net.getSeq left = net.getSeq right) (first : left 0 = right 0)
    (second : left 1 = right 1) : printHeader net left = printHeader net right := by
  simp only [printHeader, dst, src, seq, first, second]

theorem printText_congr {left right : Memory} (mhrLen : Nat) {dataLen : Nat}
    (agree : ∀ index < dataLen, left index = right index) :
    printText left mhrLen dataLen = printText right mhrLen dataLen := by
  have same (index : Nat) (member : index ∈ List.range' mhrLen (dataLen - mhrLen)) :
      left index = right index := by
    rw [List.mem_range'_1] at member
    exact agree index (by omega)
  simp only [printText]
  refine List.flatMap_congr fun index member => ?_
  rw [same index member]

theorem handlePayload_congr (crypto : Crypto) {net : Ieee802154} (call : RecvCall)
    {left right : Memory} (radios : Radios) {mhrLen dataLen : Nat}
    (src : net.getSrc left = net.getSrc right) (header : mhrLen ≠ 0) (tag_inside : mhrLen < dataLen)
    (fits : dataLen ≤ maxPktLength)
    (reply : left mhrLen = 0xFE → mhrLen + 1 + 64 + 32 ≤ dataLen)
    (agree : ∀ index < dataLen, left index = right index) :
    handlePayload crypto net call left radios mhrLen dataLen =
      handlePayload crypto net call right radios mhrLen dataLen := by
  have slices (start length : Nat) (inside : start + length ≤ dataLen) :
      left.slice start length = right.slice start length :=
    Memory.slice_congr fun index _ below => agree index (by omega)
  unfold handlePayload
  rw [agree mhrLen tag_inside] at reply ⊢
  split
  · simp only [requestToSign, msgSize_eq tag_inside fits, src,
      slices (mhrLen + 1) (dataLen - mhrLen - 1) (by omega)]
  · split
    · rename_i tagged
      have whole := reply tagged
      simp only [signReceived, readArray, slices (mhrLen + 1) 64 (by omega),
        slices (mhrLen + 64 + 1) 32 (by omega), slices 0 (64 + 32 + 2) (by omega)]
    · rfl

theorem ignoresOldBuffer_of_completeFrame {crypto : Crypto} {net : Ieee802154} {node : NodeState}
    {call : RecvCall} (local_header : HeaderLocal net) (complete : CompleteFrame net node call) :
    IgnoresOldBuffer crypto net node call := by
  intro header buffer
  obtain ⟨beyond, reply⟩ := complete.resolve_left header
  obtain ⟨bytes, fits, frame⟩ := exists_frame_of_count_pos (Nat.zero_lt_of_lt beyond)
  have dataLen_eq : call.reception.dataLen = call.reception.count := by
    rw [frame]
    rfl
  have count_le : call.reception.count ≤ maxPktLength := by
    rw [frame]
    exact fits
  have agree (index : Nat) (inside : index < call.reception.count) :
      call.reception.store node.buffer index = call.reception.store buffer index :=
    store_congr inside
  rw [reportedLen] at header beyond reply
  obtain ⟨length, dst, src, seq⟩ := local_header (call.reception.store node.buffer)
    (call.reception.store buffer) header fun index below => agree index (by omega)
  have header_lines := printHeader_congr dst src seq (agree 0 (by omega)).symm
    (agree 1 (by omega)).symm
  have text := printText_congr (net.getFrameHdrLen (call.reception.store node.buffer))
    fun index inside => (agree index inside).symm
  have branch := handlePayload_congr crypto call node.radios src.symm header beyond count_le reply
    agree
  simp only [recv, length, header, if_false, dataLen_eq, header_lines, text, branch,
    (agree _ beyond).symm]

def recvNext (crypto : Crypto) (net : Ieee802154) (node : NodeState) (call : RecvCall) :
    NodeState :=
  (recv crypto net node call).node

/-- In a run of receptions, a call uses received bytes only, and is independent of what the buffer
held before, exactly when its frame is complete. -/
theorem receive_bounds_iff (crypto : Crypto) (net : Ieee802154) (local_header : HeaderLocal net)
    (node : NodeState) (calls : List RecvCall) :
    (∀ step ∈ steps (recvNext crypto net) node calls,
      InBounds step.2.reception.count (recv crypto net step.1 step.2).actions ∧
        IgnoresOldBuffer crypto net step.1 step.2) ↔
      ∀ step ∈ steps (recvNext crypto net) node calls, CompleteFrame net step.1 step.2 := by
  apply forall_steps_congr
  rintro ⟨state, call⟩
  constructor
  · rintro ⟨bounded, -⟩
    exact completeFrame_of_inBounds bounded
  · intro complete
    exact ⟨inBounds_of_completeFrame complete,
      ignoresOldBuffer_of_completeFrame local_header complete⟩

/-- A reply with the signature and digest of the log is complete. -/
theorem receive_bounds_log_reply :
    InBounds receiveLogReply.reception.count
        (recv sampleCrypto dataFrameNet freshNode receiveLogReply).actions ∧
      IgnoresOldBuffer sampleCrypto dataFrameNet freshNode receiveLogReply :=
  (receive_bounds_iff sampleCrypto dataFrameNet headerLocal_dataFrameNet freshNode
    [receiveLogReply]).mpr (by simp; decide +kernel) (freshNode, receiveLogReply)
    List.mem_cons_self

/-- A frame that ends behind the reply tag makes the node read 97 bytes that it did not receive. -/
theorem truncated_reply_out_of_bounds :
    let call := receivePayload [0xFE] (by decide)
    ¬ ∀ step ∈ steps (recvNext sampleCrypto dataFrameNet) freshNode [call],
      InBounds step.2.reception.count
        (recv sampleCrypto dataFrameNet step.1 step.2).actions := by
  intro call bounded
  have first := bounded (freshNode, call) List.mem_cons_self
  have complete := completeFrame_of_inBounds first
  revert complete
  decide +kernel

end PpmlIot.Signecc
