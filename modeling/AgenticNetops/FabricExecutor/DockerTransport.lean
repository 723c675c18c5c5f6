import AgenticNetops.Lib.PieceReader

set_option autoImplicit false

/- cmd/fabric-executor/transport_docker.go: what an exec stream says on stdout and
   on stderr, taken from docker's frames. -/
namespace AgenticNetops.FabricExecutor

open PieceReader

abbrev StreamBytes := List UInt8

-- binary.BigEndian.Uint32 of the last four bytes of a header.
def payloadSize (header : StreamBytes) : Nat :=
  (header.drop 4).foldl (fun size byte => size * 256 + byte.toNat) 0

structure Demuxed where
  stdout : StreamBytes
  stderr : StreamBytes
deriving DecidableEq, Repr

-- Bytes of an unknown stream go nowhere.
def Demuxed.write (out : Demuxed) (streamType : Option UInt8) (payload : StreamBytes) : Demuxed :=
  if streamType = some 1 then { out with stdout := out.stdout ++ payload }
  else if streamType = some 2 then { out with stderr := out.stderr ++ payload }
  else out

-- The size of a bufio.Reader's buffer.
def bufferSize : Nat := 4096

-- io.ReadFull(br, header)
def readHeader (br : Reader UInt8) : StreamBytes × Reader UInt8 := br.collect bufferSize id 8

-- io.CopyN; room is how much the destination has free when so much is still to come.
def copyN (room : Nat → Nat) (size : Nat) (br : Reader UInt8) : StreamBytes × Reader UInt8 :=
  br.collect bufferSize room size

theorem header_shorter (room : Nat → Nat) (size : Nat) (br : Reader UInt8) (full : ¬ (readHeader br).1.length < 8) :
    (copyN room size (readHeader br).2).2.content.length < br.content.length := by
  obtain ⟨read, behind⟩ := collect_content bufferSize id 8 br
  have copied := (collect_content bufferSize room size (readHeader br).2).2
  rw [readHeader, read, List.length_take] at full
  rw [copyN, copied, readHeader, behind, List.length_drop, List.length_drop]
  omega

def demuxFrames (room : Nat → Nat) (br : Reader UInt8) (out : Demuxed) : Demuxed :=
  if short : (readHeader br).1.length < 8 then out
  else
    let size := payloadSize (readHeader br).1
    let copied := copyN room size (readHeader br).2
    let out := out.write (readHeader br).1.head? copied.1
    if copied.1.length < size then out
    else
      have : copied.2.content.length < br.content.length := header_shorter room size br short
      demuxFrames room copied.2 out
termination_by br.content.length

-- pieces is what the successive reads of the connection give.
def demuxStream (room : Nat → Nat) (pieces : List StreamBytes) : Demuxed := demuxFrames room ⟨[], pieces⟩ ⟨[], []⟩

section Frames

-- What docker sends: a stream type, and a payload whose length fits the header.
structure Frame where
  stream : UInt8
  payload : StreamBytes
  fits : payload.length < 2 ^ 32

def Frame.header (frame : Frame) : StreamBytes :=
  [frame.stream, 0, 0, 0, UInt8.ofNat (frame.payload.length / 2 ^ 24), UInt8.ofNat (frame.payload.length / 2 ^ 16),
    UInt8.ofNat (frame.payload.length / 2 ^ 8), UInt8.ofNat frame.payload.length]

def Frame.bytes (frame : Frame) : StreamBytes := frame.header ++ frame.payload

-- A frame that the end of the stream cuts off.
structure CutFrame where
  frame : Frame
  length : Nat
  cut : length < frame.bytes.length

def CutFrame.bytes (tail : CutFrame) : StreamBytes := tail.frame.bytes.take tail.length

-- What of its payload is there.
def CutFrame.payload (tail : CutFrame) : StreamBytes := tail.bytes.drop 8

-- The payload bytes that arrived on one stream, in their order.
def arrivedOn (stream : UInt8) (frames : List Frame) (tail : CutFrame) : StreamBytes :=
  frames.flatMap (fun frame => if frame.stream = stream then frame.payload else []) ++
    (if tail.frame.stream = stream then tail.payload else [])

theorem header_length (frame : Frame) : frame.header.length = 8 := rfl

theorem header_size (frame : Frame) : payloadSize frame.header = frame.payload.length := by
  have fits := frame.fits
  simp only [payloadSize, Frame.header, List.drop, List.foldl, UInt8.toNat_ofNat']
  omega

/- What a frame adds to each of the two outputs. -/
theorem write_parts (out : Demuxed) (stream : UInt8) (payload : StreamBytes) :
    (out.write (some stream) payload).stdout = out.stdout ++ (if stream = 1 then payload else []) ∧
      (out.write (some stream) payload).stderr = out.stderr ++ (if stream = 2 then payload else []) := by
  unfold Demuxed.write
  by_cases first : stream = 1
  · rw [first, if_pos rfl, if_pos rfl, if_neg (by decide), List.append_nil]
    exact ⟨rfl, rfl⟩
  · rw [if_neg (fun same => first (Option.some.inj same)), if_neg first, List.append_nil]
    by_cases second : stream = 2
    · rw [second, if_pos rfl, if_pos rfl]
      exact ⟨rfl, rfl⟩
    · rw [if_neg (fun same => second (Option.some.inj same)), if_neg second, List.append_nil]
      exact ⟨rfl, rfl⟩

/- A whole frame is taken off the reader, and its payload written. -/
theorem demux_frame (room : Nat → Nat) (br : Reader UInt8) (out : Demuxed) (frame : Frame) (rest : StreamBytes)
    (content : br.content = frame.bytes ++ rest) :
    ∃ br', br'.content = rest ∧
      demuxFrames room br out = demuxFrames room br' (out.write (some frame.stream) frame.payload) := by
  obtain ⟨read, behind⟩ := collect_content bufferSize id 8 br
  have header : (readHeader br).1 = frame.header := by
    rw [readHeader, read, content, Frame.bytes, List.append_assoc, List.take_append_of_le_length (Nat.le_refl 8)]
    rfl
  have after : (readHeader br).2.content = frame.payload ++ rest := by
    rw [readHeader, behind, content, Frame.bytes, List.append_assoc]
    rfl
  obtain ⟨copied, left⟩ := collect_content bufferSize room frame.payload.length (readHeader br).2
  have payload : (copyN room frame.payload.length (readHeader br).2).1 = frame.payload := by
    rw [copyN, copied, after, List.take_left]
  refine ⟨(copyN room frame.payload.length (readHeader br).2).2, ?_, ?_⟩
  · rw [copyN, left, after, List.drop_left]
  · rw [demuxFrames, dif_neg (by rw [header, header_length]; omega)]
    dsimp only
    rw [header, header_size, payload, if_neg (Nat.lt_irrefl _)]
    rfl

/- A frame that is cut off ends the stream; its bytes so far are written. -/
theorem demux_cut (room : Nat → Nat) (br : Reader UInt8) (out : Demuxed) (tail : CutFrame)
    (content : br.content = tail.bytes) :
    demuxFrames room br out = out.write (some tail.frame.stream) tail.payload := by
  obtain ⟨read, behind⟩ := collect_content bufferSize id 8 br
  have cut := tail.cut
  rw [Frame.bytes, List.length_append, header_length] at cut
  by_cases short : tail.length < 8
  · have few : (readHeader br).1.length < 8 := by
      rw [readHeader, read, content, CutFrame.bytes, List.length_take, List.length_take]
      omega
    have nothing : tail.payload = [] := by
      rw [CutFrame.payload, CutFrame.bytes]
      apply List.drop_eq_nil_of_le
      rw [List.length_take]
      omega
    have parts := write_parts out tail.frame.stream []
    rw [demuxFrames, dif_pos few, nothing]
    rw [ite_self, ite_self, List.append_nil, List.append_nil] at parts
    calc out = ⟨out.stdout, out.stderr⟩ := rfl
      _ = out.write (some tail.frame.stream) [] := by rw [← parts.1, ← parts.2]
  · have shape : tail.bytes = tail.frame.header ++ tail.frame.payload.take (tail.length - 8) := by
      rw [CutFrame.bytes, Frame.bytes, List.take_append, header_length,
        List.take_of_length_le (by rw [header_length]; omega)]
    have header : (readHeader br).1 = tail.frame.header := by
      rw [readHeader, read, content, shape]
      rfl
    have after : (readHeader br).2.content = tail.frame.payload.take (tail.length - 8) := by
      rw [readHeader, behind, content, shape]
      rfl
    have payload : tail.payload = tail.frame.payload.take (tail.length - 8) := by
      rw [CutFrame.payload, shape]
      rfl
    have copied : (copyN room tail.frame.payload.length (readHeader br).2).1 = tail.payload := by
      rw [copyN, (collect_content bufferSize room _ _).1, after, ← payload]
      apply List.take_of_length_le
      rw [payload]
      exact (List.length_take_le' _ _)
    rw [demuxFrames, dif_neg (by rw [header, header_length]; omega)]
    dsimp only
    rw [header, header_size, copied, if_pos (by rw [payload, List.length_take]; omega)]
    rfl

theorem demux_frames (room : Nat → Nat) (frames : List Frame) (tail : CutFrame) (br : Reader UInt8) (out : Demuxed)
    (content : br.content = frames.flatMap Frame.bytes ++ tail.bytes) :
    demuxFrames room br out =
      ⟨out.stdout ++ arrivedOn 1 frames tail, out.stderr ++ arrivedOn 2 frames tail⟩ := by
  induction frames generalizing br out with
  | nil =>
      have parts := write_parts out tail.frame.stream tail.payload
      rw [demux_cut room br out tail content]
      calc out.write (some tail.frame.stream) tail.payload
          = ⟨(out.write (some tail.frame.stream) tail.payload).stdout,
              (out.write (some tail.frame.stream) tail.payload).stderr⟩ := rfl
        _ = _ := by rw [parts.1, parts.2]; rfl
  | cons frame frames inner =>
      rw [List.flatMap_cons, List.append_assoc] at content
      obtain ⟨br', rest, same⟩ := demux_frame room br out frame _ content
      have parts := write_parts out frame.stream frame.payload
      rw [same, inner br' _ rest, parts.1, parts.2]
      simp only [arrivedOn, List.flatMap_cons, List.append_assoc]

theorem demux_stream_lossless (room : Nat → Nat) (pieces : List StreamBytes) (frames : List Frame) (tail : CutFrame)
    (sent : pieces.flatten = frames.flatMap Frame.bytes ++ tail.bytes) :
    demuxStream room pieces = ⟨arrivedOn 1 frames tail, arrivedOn 2 frames tail⟩ :=
  demux_frames room frames tail ⟨[], pieces⟩ ⟨[], []⟩ sent

-- Two frames and three bytes of the payload of a third, read in three pieces.
theorem lab_stream_demuxed :
    demuxStream (fun _ => 511) [[1, 0, 0], [0, 0, 0, 0, 2, 79, 75, 2, 0, 0, 0, 0, 0, 0, 1], [33, 1, 0, 0, 0, 0, 0, 0, 9, 97]] =
      ⟨[79, 75, 97], [33]⟩ :=
  demux_stream_lossless (fun _ => 511) _
    [⟨1, [79, 75], by decide⟩, ⟨2, [33], by decide⟩] ⟨⟨1, [97, 98, 99, 100, 101, 102, 103, 104, 105], by decide⟩, 9, by decide⟩
    (by decide)

end Frames

end AgenticNetops.FabricExecutor
