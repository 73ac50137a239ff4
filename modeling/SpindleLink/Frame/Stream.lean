import SpindleLink.Frame.Status

/-! Status frames in a stream of bytes. The scan stops at the first window of thirteen bytes that
decodes, or keeps the tail that may still become one. -/

namespace SpindleLink
namespace Stream

/-- Whether the first two bytes of a frame stand here. -/
def atHeader : Bytes → Bool
  | s :: m :: _ => s = lead && m = mark
  | _ => false

/-- The first status frame and the bytes behind it, or no frame and the tail worth keeping: a
window cut short, or a last byte that may be the first of a header. -/
def scan : Bytes → Option Status × Bytes
  | [] => (none, [])
  | b :: rest =>
    let window := (b :: rest).take FrameKind.status.size
    if atHeader (b :: rest) then
      if window.length < FrameKind.status.size then (none, b :: rest)
      else match Status.decode window with
        | .ok frame => (some frame, (b :: rest).drop FrameKind.status.size)
        | .error _ => scan rest
    else if rest = [] ∧ b = lead then (none, [b])
    else scan rest

/-- A frame that is found takes bytes away. -/
theorem length_scan_lt {data : Bytes} {frame : Status} {rest : Bytes}
    (h : scan data = (some frame, rest)) : rest.length < data.length := by
  induction data with
  | nil => simp [scan] at h
  | cons b tail ih =>
    simp only [scan] at h
    split at h
    · split at h
      · simp at h
      · split at h
        · simp only [Prod.mk.injEq] at h
          rw [← h.2]
          simp only [FrameKind.size, List.length_drop, List.length_cons]; omega
        · have := ih h
          simp only [List.length_cons]; omega
    · split at h
      · simp at h
      · have := ih h
        simp only [List.length_cons]; omega

/-- All frames that repeated scanning finds, and the tail that the last scan keeps. -/
def drain (data : Bytes) : List Status × Bytes :=
  match h : scan data with
  | (none, rest) => ([], rest)
  | (some frame, rest) =>
    have := length_scan_lt h
    let (frames, last) := drain rest
    (frame :: frames, last)
termination_by data.length

/-- One step of incremental reading: a chunk behind the tail kept so far. -/
def feed (kept chunk : Bytes) : List Status × Bytes := drain (kept ++ chunk)

/-- What each chunk in turn brings to light. -/
def feedAll (kept : Bytes) : List Bytes → List (List Status × Bytes)
  | [] => []
  | chunk :: chunks => feed kept chunk :: feedAll (feed kept chunk).2 chunks

end Stream
end SpindleLink
