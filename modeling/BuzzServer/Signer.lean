/-
This file models how the signer reads a frame from its connection and decodes it.

Whatever way the client's bytes arrive in, the frame read decodes to the payload
its first four bytes announce, or to the error they call for.
-/

import BuzzServer.Wire.Frame

namespace BuzzServer.Signer

/-! ### Errors -/

def maxSignerFrameBytes : Nat := 16 * 1024

inductive SignerErrorCode where
  | malformedFrame
  | frameTooLarge
  | invalidRequest
  | actionNotAllowed
  | communityNotAllowed
  | relayNotAllowed
  | agentNotAllowed
  | conditionsNotAllowed
  | authorizationFailed

structure SignerError where
  code : SignerErrorCode
  message : String

/-! ### Frames -/

def decodeFrame (frame : List UInt8) : Except SignerError (List UInt8) :=
  match Wire.readBigEndian32 frame with
  | none => .error ⟨.malformedFrame, "frame header is invalid"⟩
  | some (payloadLength, payload) =>
      if payloadLength > maxSignerFrameBytes then
        .error ⟨.frameTooLarge, "frame exceeds the maximum size"⟩
      else if payload.length ≠ payloadLength then
        .error ⟨.malformedFrame, "frame length does not match its payload"⟩
      else .ok payload

/-- Fills a buffer read by read. What the buffer has no room for is left to the next read, and a
read of nothing is the end of the stream. -/
def fill (room : Nat) : List (List UInt8) → List UInt8 × List (List UInt8)
  | [] => ([], [])
  | read :: rest =>
      if room = 0 then ([], read :: rest)
      else if read = [] then ([], rest)
      else if read.length ≤ room then
        let filled := fill (room - read.length) rest
        (read ++ filled.1, filled.2)
      else (read.take room, read.drop room :: rest)

/-- The frame read from a connection, and how many bytes were set aside for it. -/
def readBoundedFrame (reads : List (List UInt8)) : List UInt8 × Nat :=
  let header := fill 4 reads
  match Wire.readBigEndian32 header.1 with
  | none => (header.1, 4)
  | some (payloadLength, _) =>
      if payloadLength > maxSignerFrameBytes then (header.1, 4)
      else (header.1 ++ (fill payloadLength header.2).1, 4 + payloadLength)

/-- However the bytes are split, a buffer takes the first of them and leaves the others. -/
theorem fill_eq {reads : List (List UInt8)} (room : Nat) (full : ∀ read ∈ reads, read ≠ []) :
    (fill room reads).1 = reads.flatten.take room ∧
      (fill room reads).2.flatten = reads.flatten.drop room ∧
      ∀ read ∈ (fill room reads).2, read ≠ [] := by
  induction reads generalizing room with
  | nil => simp [fill]
  | cons read rest inductionHypothesis =>
    obtain ⟨nonempty, restFull⟩ := List.forall_mem_cons.mp full
    rw [fill, List.flatten_cons, List.take_append, List.drop_append, if_neg nonempty]
    split_ifs with done fits
    · subst done
      simpa using full
    · obtain ⟨taken, left, leftFull⟩ := inductionHypothesis (room - read.length) restFull
      rw [List.take_of_length_le fits, List.drop_of_length_le fits]
      exact ⟨congrArg _ taken, left, leftFull⟩
    · have none : room - read.length = 0 := by omega
      have more : read.drop room ≠ [] := by
        rw [ne_eq, List.drop_eq_nil_iff]
        exact fits
      rw [none, List.take_zero, List.append_nil, List.drop_zero]
      exact ⟨rfl, rfl, List.forall_mem_cons.mpr ⟨more, restFull⟩⟩

/-- Whatever way the bytes of a stream arrive in, the frame read from it decodes to what the number
in its first four bytes calls for, and no more than the largest frame is set aside for it. -/
theorem decodeFrame_readBoundedFrame (reads : List (List UInt8))
    (full : ∀ read ∈ reads, read ≠ []) :
    (readBoundedFrame reads).2 ≤ 4 + maxSignerFrameBytes ∧
      (readBoundedFrame reads).1.length ≤ 4 + maxSignerFrameBytes ∧
      decodeFrame (readBoundedFrame reads).1 =
        match Wire.readBigEndian32 reads.flatten with
        | none => .error ⟨.malformedFrame, "frame header is invalid"⟩
        | some (length, rest) =>
            if length > maxSignerFrameBytes then
              .error ⟨.frameTooLarge, "frame exceeds the maximum size"⟩
            else if length ≤ rest.length then .ok (rest.take length)
            else .error ⟨.malformedFrame, "frame length does not match its payload"⟩ := by
  obtain ⟨taken, left, leftFull⟩ := fill_eq 4 full
  rw [readBoundedFrame, taken]
  rcases Wire.readBigEndian32_cases reads.flatten with
    ⟨short, unread⟩ | ⟨header, rest, length, split, four, read⟩
  · rw [List.take_of_length_le short.le, unread]
    refine ⟨Nat.le_add_right _ _, short.le.trans (Nat.le_add_right _ _), ?_⟩
    rw [decodeFrame, unread]
  · have headerRead := read []
    have headerTaken : reads.flatten.take 4 = header := by rw [split, ← four, List.take_left]
    have restLeft : (fill 4 reads).2.flatten = rest := by rw [left, split, ← four, List.drop_left]
    obtain ⟨payload, -, -⟩ := fill_eq length leftFull
    rw [List.append_nil] at headerRead
    rw [restLeft] at payload
    rw [headerTaken, headerRead, split, read]
    dsimp only
    split_ifs with large fits
    · refine ⟨Nat.le_add_right _ _, four.le.trans (Nat.le_add_right _ _), ?_⟩
      rw [decodeFrame, headerRead]
      exact if_pos large
    all_goals
      have bounded : (header ++ rest.take length).length ≤ 4 + length := by
        rw [List.length_append, four]
        exact Nat.add_le_add_left (List.length_take_le _ _) _
      dsimp only
      rw [payload]
      refine ⟨by omega, by omega, ?_⟩
      rw [decodeFrame, read]
      dsimp only
      rw [if_neg large, List.length_take]
    · rw [if_neg (not_not.mpr (min_eq_left fits))]
    · rw [if_pos (by omega)]

theorem decodeFrame_readBoundedFrame_split :
    decodeFrame (readBoundedFrame [[0, 0], [0, 2, 65], [66, 9]]).1 = .ok [65, 66] := by
  rw [(decodeFrame_readBoundedFrame _ (by decide)).2.2]
  simp [Wire.readBigEndian32, maxSignerFrameBytes]

end BuzzServer.Signer
