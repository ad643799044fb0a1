import Yatagarasu.Cmux.Acceptance
import Yatagarasu.Library.Ascii
import Yatagarasu.Library.Lines

/-! `read_frame` on the bytes that the server sends before it ends the stream. One line is one
frame, and a line that is too long or not ended is none. -/

namespace Yatagarasu.Cmux

open PyJson Encodings Lines PyStr

def maxFrameBytes : Nat := 16 * 1024

def newline : UInt8 := 10

/-- What `json.loads` raises: an error that `read_frame` catches, or another one. -/
inductive LoadsError
  | invalid
  | raised (error : PyError)
  deriving DecidableEq

/-- `json.loads` on bytes. -/
abbrev Loads := List UInt8 → Except LoadsError Json

def oversizedError : CmuxError := .streamProtocol "CMUX stream frame exceeds the 16 KiB limit"

/-- The frame that a line stands for. -/
def frameValue (loads : Loads) (raw : List UInt8) : Except CmuxError Dict :=
  match loads raw with
  | .error .invalid => .error (.streamProtocol "CMUX stream frame is not valid JSON")
  | .error (.raised e) => .error (.python e)
  | .ok (.obj frame) => .ok frame
  | .ok _ => .error (.streamProtocol "CMUX stream frame must be a JSON object")

/-- One call on the bytes that are still to come: its result, and the bytes after it. -/
def readFrame (loads : Loads) (stream : List UInt8) :
    Except CmuxError (Option Dict) × List UInt8 :=
  let (raw, rest) := readline newline (maxFrameBytes + 2) stream
  if raw = [] then (.ok none, rest)
  else if raw.length > maxFrameBytes + 1 ∨ raw.getLast? ≠ some newline then
    (.error oversizedError, rest)
  else ((frameValue loads raw).map some, rest)

/-- The results of calls one after the other. -/
def readFrames (loads : Loads) : Nat → List UInt8 → List (Except CmuxError (Option Dict))
  | 0, _ => []
  | calls + 1, stream =>
    (readFrame loads stream).1 :: readFrames loads calls (readFrame loads stream).2

/-- A JSON object and a serialisation of it that fits a frame. -/
structure Frame (loads : Loads) where
  object : Dict
  bytes : List UInt8
  line : newline ∉ bytes
  fits : bytes.length ≤ maxFrameBytes
  inverts : loads (bytes ++ [newline]) = .ok (.obj object)

namespace Frame

variable {loads : Loads}

/-- The frame as it is sent. -/
def sent (frame : Frame loads) : List UInt8 := frame.bytes ++ [newline]

/-- What the call that reads the frame returns. -/
def returned (frame : Frame loads) : Except CmuxError (Option Dict) := .ok (some frame.object)

end Frame

/-- Frames as they are sent one after the other. -/
def wire {loads : Loads} (frames : List (Frame loads)) : List UInt8 := frames.flatMap Frame.sent

section Calls

variable {loads : Loads} {stream rest : List UInt8} {frame : Dict} {calls : Nat}

/-- A frame is read back, and nothing after it is touched. -/
theorem readFrame_sent (frame : Frame loads) (rest : List UInt8) :
    readFrame loads (frame.sent ++ rest) = (frame.returned, rest) := by
  have hfits := frame.fits
  have hread : readline newline (maxFrameBytes + 2) (frame.sent ++ rest) = (frame.sent, rest) := by
    rw [Frame.sent, List.append_assoc, List.singleton_append]
    apply readline_line frame.line
    omega
  have hfilled : frame.sent ≠ [] := List.append_ne_nil_of_right_ne_nil _ (List.cons_ne_nil _ _)
  have hframe : ¬ (frame.sent.length > maxFrameBytes + 1 ∨ frame.sent.getLast? ≠ some newline) := by
    simp [Frame.sent]
    omega
  rw [readFrame, hread]
  dsimp only
  rw [if_neg hfilled, if_neg hframe, frameValue, Frame.sent, frame.inverts]
  rfl

/-- The end of the stream is no frame. -/
theorem readFrame_end : readFrame loads [] = (.ok none, []) := rfl

/-- Bytes that the end of the stream cuts off are refused. -/
theorem readFrame_unended (hfilled : stream ≠ []) (hline : newline ∉ stream)
    (hfits : stream.length ≤ maxFrameBytes + 2) :
    readFrame loads stream = (.error oversizedError, []) := by
  have hunended : stream.getLast? ≠ some newline := fun h => hline (List.mem_of_getLast? h)
  rw [readFrame, readline_last hline hfits]
  dsimp only
  rw [if_neg hfilled, if_pos (.inr hunended)]

theorem readFrames_wire (frames : List (Frame loads)) (calls : Nat) (rest : List UInt8) :
    readFrames loads (frames.length + calls) (wire frames ++ rest) =
      frames.map Frame.returned ++ readFrames loads calls rest := by
  induction frames with
  | nil => simp [wire]
  | cons frame frames ih =>
    have hread := readFrame_sent frame (wire frames ++ rest)
    have hwire : wire (frame :: frames) ++ rest = frame.sent ++ (wire frames ++ rest) := by
      simp [wire]
    have hcalls : (frame :: frames).length + calls = frames.length + calls + 1 := by
      rw [List.length_cons]
      omega
    rw [hcalls, readFrames, hwire, hread, ih]
    rfl

theorem readFrames_end (calls : Nat) :
    readFrames loads calls [] = List.replicate calls (.ok none) := by
  induction calls with
  | zero => rfl
  | succ calls ih => rw [readFrames, readFrame_end, ih, List.replicate_succ]

/-- A value comes from the first line of the stream, whole and no longer than a frame. -/
theorem readFrame_value (h : readFrame loads stream = (.ok (some frame), rest)) :
    ∃ line, stream = line ++ newline :: rest ∧ newline ∉ line ∧ line.length ≤ maxFrameBytes ∧
      loads (line ++ [newline]) = .ok (.obj frame) := by
  have hstream := readline_append newline (maxFrameBytes + 2) stream
  have hterminator := @readline_terminator _ _ newline (maxFrameBytes + 2)
  rw [readFrame] at h
  cases hread : readline newline (maxFrameBytes + 2) stream with
  | mk raw left =>
    rw [hread] at h hstream
    dsimp only at h hstream
    split at h
    · cases h
    split at h
    · cases h
    rename_i hframe
    simp only [not_or, not_not, Nat.not_lt] at hframe
    obtain ⟨line, rfl⟩ := List.getLast?_eq_some_iff.mp hframe.2
    have hfits : line.length ≤ maxFrameBytes := by simpa using hframe.1
    obtain ⟨hvalue, rfl⟩ := Prod.mk.inj h
    have hline : newline ∉ line := hterminator (by rw [hread])
    refine ⟨line, by simpa using hstream.symm, hline, hfits, ?_⟩
    unfold frameValue at hvalue
    split at hvalue
    · cases hvalue
    · cases hvalue
    · rename_i hloads
      cases hvalue
      exact hloads
    · cases hvalue

/-- A cut inside a frame leaves the frames before it and a part of its line. -/
theorem take_wire {before : List (Frame loads)} {frame : Frame loads} {n : Nat}
    (after : List (Frame loads)) (hbefore : (wire before).length < n)
    (hinside : n < (wire (before ++ [frame])).length) :
    ∃ part, (wire (before ++ frame :: after)).take n = wire before ++ part ∧ part ≠ [] ∧
      newline ∉ part ∧ part.length ≤ maxFrameBytes := by
  obtain ⟨k, rfl⟩ : ∃ k, n = (wire before).length + (k + 1) :=
    ⟨n - (wire before).length - 1, by omega⟩
  have hk : k + 1 ≤ frame.bytes.length := by
    simp [wire, Frame.sent] at hinside
    omega
  have hwire : wire (before ++ frame :: after) =
      wire before ++ (frame.bytes ++ newline :: wire after) := by
    simp [wire, Frame.sent]
  have hfits := frame.fits
  refine ⟨frame.bytes.take (k + 1), ?_, ?_, ?_, ?_⟩
  · rw [hwire, List.take_length_add_append, List.take_append_of_le_length hk]
  · intro hnil
    have hlength := congrArg List.length hnil
    rw [List.length_take, List.length_nil] at hlength
    omega
  · exact fun hmem => frame.line (List.mem_of_mem_take hmem)
  · rw [List.length_take]
    omega

end Calls

/-- `json.loads` as it is modelled elsewhere: bytes that it cannot read are invalid. -/
def jsonLoads : Loads := fun raw =>
  match ((decodeJsonBytes raw).bind unicode).bind fun text => PyJson.loads (String.ofList text) with
  | some value => .ok value
  | none => .error .invalid

theorem newline_not_mem {text : List Char} (h : IsPlain text) : newline ∉ asciiBytes text := by
  intro hmem
  obtain ⟨c, hc, hbyte⟩ := List.mem_map.mp hmem
  have hplain := h c hc
  have htoNat := toNat_byte (c := c) (by omega)
  rw [hbyte, show newline.toNat = 10 from rfl] at htoNat
  omega

theorem jsonLoads_line {object : Dict} (h : Readable (.obj object)) :
    jsonLoads (asciiBytes (render (.obj object)) ++ [newline]) = .ok (.obj object) := by
  have hline : asciiBytes (render (.obj object)) ++ [newline] =
      asciiBytes (render (.obj object) ++ ['\n']) := by
    rw [asciiBytes, asciiBytes, List.map_append]
    rfl
  have hascii : IsAscii (render (.obj object) ++ ['\n']) := by
    intro c hc
    rcases List.mem_append.mp hc with hc | hc
    · exact isAscii_render h c hc
    · rw [List.mem_singleton.mp hc]
      decide
  rw [jsonLoads, hline, decodeJsonBytes_ascii hascii, Option.bind_some, unicode_points,
    Option.bind_some, loads_obj_space h rfl]

/-- The compact text of an object is a frame, if it is not too long. -/
def Frame.compact (object : Dict) (readable : Readable (.obj object))
    (fits : (render (.obj object)).length ≤ maxFrameBytes) : Frame jsonLoads where
  object
  bytes := asciiBytes (render (.obj object))
  line := newline_not_mem (isPlain_render readable)
  fits := by rwa [asciiBytes, List.length_map]
  inverts := jsonLoads_line readable

/-- Frames are read back in their order, and then the end of the stream. A stream that is cut inside
a frame gives the frames before it and then an error. On any stream, what a call returns as a value
is one line of at most `maxFrameBytes` bytes, the first of the stream. -/
theorem frames_read (loads : Loads) :
    (∀ (frames : List (Frame loads)) (calls : Nat),
      readFrames loads (frames.length + calls) (wire frames) =
        frames.map Frame.returned ++ List.replicate calls (.ok none)) ∧
    (∀ (before after : List (Frame loads)) (frame : Frame loads) (n : Nat),
      (wire before).length < n → n < (wire (before ++ [frame])).length →
        readFrames loads (before.length + 1) ((wire (before ++ frame :: after)).take n) =
          before.map Frame.returned ++ [.error oversizedError]) ∧
    ∀ (stream rest : List UInt8) (frame : Dict),
      readFrame loads stream = (.ok (some frame), rest) →
        ∃ line, stream = line ++ newline :: rest ∧ newline ∉ line ∧
          line.length ≤ maxFrameBytes ∧ loads (line ++ [newline]) = .ok (.obj frame) := by
  refine ⟨fun frames calls => ?_, ?_, fun stream rest frame hread => readFrame_value hread⟩
  · have hread := readFrames_wire frames calls []
    rwa [List.append_nil, readFrames_end] at hread
  · intro before after frame n hbefore hinside
    obtain ⟨part, htake, hfilled, hline, hfits⟩ := take_wire after hbefore hinside
    have hrefused : readFrame loads part = (.error oversizedError, []) :=
      readFrame_unended hfilled hline (by omega)
    rw [htake, readFrames_wire, readFrames, hrefused]
    rfl

/-- A line of ten bytes. -/
def sampleLine (n : Fin 10) : Frame jsonLoads :=
  Frame.compact [("seq", .int n)] (by simp [Readable, ReadableFields]) (by
    revert n
    decide)

theorem frames_read_sample :
    readFrames jsonLoads 3 (wire [sampleLine 1, sampleLine 2]) =
        [(sampleLine 1).returned, (sampleLine 2).returned, .ok none] ∧
      readFrames jsonLoads 2 ((wire [sampleLine 1, sampleLine 2]).take 19) =
        [(sampleLine 1).returned, .error oversizedError] ∧
      ∃ line, wire [sampleLine 1] = line ++ newline :: [] ∧ newline ∉ line ∧
        line.length ≤ maxFrameBytes ∧
          jsonLoads (line ++ [newline]) = .ok (.obj (sampleLine 1).object) := by
  obtain ⟨hwhole, hcut, hvalue⟩ := frames_read jsonLoads
  refine ⟨hwhole [sampleLine 1, sampleLine 2] 1, ?_, ?_⟩
  · exact hcut [sampleLine 1] [] (sampleLine 2) 19 (by decide) (by decide)
  · exact hvalue _ _ _ (readFrame_sent (sampleLine 1) [])

end Yatagarasu.Cmux
