import CsiDsp.Base.CInt
import CsiDsp.Base.RingList
import CsiDsp.Base.Runs

set_option autoImplicit false

-- The ring of bytes that the firmware fills for the host: the log of the panic
-- area and the profile buffer.
namespace CsiDsp.RbFile

open CInt RingList Runs

-- The indices are uint32_t, and the capacity is one byte less than the size.
structure XrpRingBuffer where
  read : Nat
  write : Nat
  size : Nat
  data : Nat → UInt8

def rbTail (read write size len : Nat) : Nat :=
  let tail := if read > write then u32 (read - 1 - write) else if read ≠ 0 then u32 (size - write) else u32 (size - 1 - write)
  if len < tail then len else tail

def memcpyInto (data : Nat → UInt8) (dst : Nat) (bytes : List UInt8) : Nat → UInt8 := fun place =>
  if dst ≤ place then (bytes[place - dst]?).getD (data place) else data place

def nextWrite (write tail size : Nat) : Nat := if u32 (write + tail) = size then 0 else u32 (write + tail)

def xrpRbWriteSome (rb : XrpRingBuffer) (buf : List UInt8) : XrpRingBuffer × Nat :=
  let tail := rbTail rb.read rb.write rb.size buf.length
  ({ rb with data := memcpyInto rb.data rb.write (buf.take tail), write := nextWrite rb.write tail rb.size }, tail)

-- The loop of xrp_rb_write. It ends as each turn but the last writes something.
def xrpRbWrite (rb : XrpRingBuffer) (buf : List UInt8) : XrpRingBuffer × Nat :=
  if buf = [] then (rb, 0)
  else if (xrpRbWriteSome rb buf).2 = 0 then ((xrpRbWriteSome rb buf).1, 0)
  else
    let rest := xrpRbWrite (xrpRbWriteSome rb buf).1 (buf.drop (xrpRbWriteSome rb buf).2)
    (rest.1, (xrpRbWriteSome rb buf).2 + rest.2)
termination_by buf.length
decreasing_by
  simp only [List.length_drop]
  have positive : 0 < buf.length := by rwa [List.length_pos_iff]
  omega

-- What stands between the two indices.
def unreadCount (read write size : Nat) : Nat := if read ≤ write then write - read else write + size - read

def XrpRingBuffer.count (rb : XrpRingBuffer) : Nat := unreadCount rb.read rb.write rb.size

def XrpRingBuffer.unread (rb : XrpRingBuffer) : List UInt8 := ringList rb.size rb.read rb.count rb.data

structure XrpRingBuffer.Valid (rb : XrpRingBuffer) : Prop where
  read : rb.read < rb.size
  write : rb.write < rb.size
  size : rb.size < 4294967296

section Ring

variable (rb : XrpRingBuffer) (valid : rb.Valid)

include valid

theorem count_below : rb.count < rb.size := by
  obtain ⟨read, write, -⟩ := valid
  rw [XrpRingBuffer.count, unreadCount]
  split <;> omega

theorem read_count : (rb.read + rb.count) % rb.size = rb.write := by
  obtain ⟨read, write, -⟩ := valid
  rw [XrpRingBuffer.count, unreadCount]
  by_cases order : rb.read ≤ rb.write
  · rw [if_pos order, Nat.add_sub_cancel' order, Nat.mod_eq_of_lt write]
  · have total : rb.read + (rb.write + rb.size - rb.read) = rb.write + rb.size := by omega
    rw [if_neg order, total, Nat.add_mod_right, Nat.mod_eq_of_lt write]

-- The room of one copy: up to the end of the data, and never the last byte in
-- front of the reader.
theorem tail_room (len : Nat) :
    rbTail rb.read rb.write rb.size len ≤ len ∧ rb.write + rbTail rb.read rb.write rb.size len ≤ rb.size ∧
      rb.count + rbTail rb.read rb.write rb.size len < rb.size ∧
      (rbTail rb.read rb.write rb.size len = 0 ↔ len = 0 ∨ rb.count + 1 = rb.size) := by
  obtain ⟨read, write, size⟩ := valid
  rw [rbTail, XrpRingBuffer.count, unreadCount]
  by_cases ahead : rb.read > rb.write
  · have tail : u32 ((rb.read : Int) - 1 - rb.write) = rb.read - 1 - rb.write := by
      have same : (rb.read : Int) - 1 - rb.write = (rb.read - 1 - rb.write : Nat) := by omega
      rw [same, u32_fits _ (by omega)]
    simp only [if_pos ahead, tail]
    split <;> split <;> omega
  · by_cases moved : rb.read ≠ 0
    · have tail : u32 ((rb.size : Int) - rb.write) = rb.size - rb.write := by
        have same : (rb.size : Int) - rb.write = (rb.size - rb.write : Nat) := by omega
        rw [same, u32_fits _ (by omega)]
      simp only [if_neg ahead, if_pos moved, tail]
      split <;> split <;> omega
    · have tail : u32 ((rb.size : Int) - 1 - rb.write) = rb.size - 1 - rb.write := by
        have same : (rb.size : Int) - 1 - rb.write = (rb.size - 1 - rb.write : Nat) := by omega
        rw [same, u32_fits _ (by omega)]
      simp only [if_neg ahead, if_neg moved, tail]
      split <;> split <;> omega

end Ring

-- A copy into a block of cells is a write to the ring.
theorem memcpy_ring (size first : Nat) (bytes : List UInt8) (data : Nat → UInt8) (inside : first % size + bytes.length ≤ size) :
    memcpyInto data (first % size) bytes = writeRing size first (fun place => bytes.getD place 0) bytes.length data := by
  have block (count : Nat) (within : count ≤ bytes.length) (place : Nat) :
      writeRing size first (fun place => bytes.getD place 0) count data place =
        if first % size ≤ place ∧ place < first % size + count then bytes.getD (place - first % size) 0 else data place := by
    induction count with
    | zero => rw [if_neg (by omega), writeRing, List.range_zero, List.foldl_nil]
    | succ count ih =>
        have cell : (first + count) % size = first % size + count := by
          rw [← Nat.mod_add_mod, Nat.mod_eq_of_lt (by omega)]
        rw [write_succ, cell]
        by_cases last : place = first % size + count
        · subst last
          rw [Function.update_self, if_pos (by omega), Nat.add_sub_cancel_left]
        · rw [Function.update_of_ne last, ih (by omega)]
          by_cases inBlock : first % size ≤ place ∧ place < first % size + count
          · rw [if_pos inBlock, if_pos (by omega)]
          · rw [if_neg inBlock, if_neg (by omega)]
  funext place
  rw [block _ (Nat.le_refl _), memcpyInto]
  by_cases from_ : first % size ≤ place
  · by_cases upTo : place < first % size + bytes.length
    · rw [if_pos from_, if_pos ⟨from_, upTo⟩, List.getD_eq_getElem?_getD, List.getElem?_eq_getElem (by omega)]
      rfl
    · rw [if_pos from_, if_neg (by omega), List.getElem?_eq_none (by omega)]
      rfl
  · rw [if_neg from_, if_neg (by omega)]

theorem range_bytes (bytes : List UInt8) : (List.range bytes.length).map (fun place => bytes.getD place 0) = bytes := by
  refine List.ext_getElem (by simp) fun place first second => ?_
  simp [List.getD_eq_getElem?_getD, List.getElem?_eq_getElem second]

section Publish

variable (rb : XrpRingBuffer) (valid : rb.Valid) (bytes : List UInt8) (room : rb.count + bytes.length < rb.size)
  (block : rb.write + bytes.length ≤ rb.size)

include valid room block

theorem memcpy_unread : ringList rb.size rb.read rb.count (memcpyInto rb.data rb.write bytes) = rb.unread := by
  have written := memcpy_ring rb.size (rb.read + rb.count) bytes rb.data (by rw [read_count rb valid]; exact block)
  rw [read_count rb valid] at written
  rw [written, XrpRingBuffer.unread]
  exact ring_congr _ _ _ _ _ fun offset inside => write_keeps rb.size rb.read rb.count bytes.length _ _ (by omega) offset inside

theorem memcpy_added : ringList rb.size rb.read (rb.count + bytes.length) (memcpyInto rb.data rb.write bytes) = rb.unread ++ bytes := by
  have written := memcpy_ring rb.size (rb.read + rb.count) bytes rb.data (by rw [read_count rb valid]; exact block)
  rw [read_count rb valid] at written
  rw [written, ring_write rb.size rb.read rb.count bytes.length _ _ (by omega), range_bytes]
  rfl

theorem next_write_count : nextWrite rb.write bytes.length rb.size < rb.size ∧
    unreadCount rb.read (nextWrite rb.write bytes.length rb.size) rb.size = rb.count + bytes.length := by
  obtain ⟨read, write, size⟩ := valid
  have sum : u32 ((rb.write : Int) + bytes.length) = rb.write + bytes.length := by
    rw [← Int.natCast_add]
    exact u32_fits _ (by omega)
  rw [nextWrite, sum]
  rw [XrpRingBuffer.count, unreadCount] at room
  rw [XrpRingBuffer.count, unreadCount, unreadCount]
  by_cases full : rb.write + bytes.length = rb.size
  · rw [if_pos full]
    split at room <;> split <;> omega
  · rw [if_neg full]
    split at room <;> split <;> omega

end Publish

-- The ring after some bytes have been copied in and published.
def published (rb : XrpRingBuffer) (bytes : List UInt8) : XrpRingBuffer :=
  { rb with data := memcpyInto rb.data rb.write bytes, write := nextWrite rb.write bytes.length rb.size }

theorem published_unread (rb : XrpRingBuffer) (valid : rb.Valid) (bytes : List UInt8) (room : rb.count + bytes.length < rb.size)
    (block : rb.write + bytes.length ≤ rb.size) : (published rb bytes).Valid ∧ (published rb bytes).unread = rb.unread ++ bytes ∧
      (published rb bytes).count = rb.count + bytes.length := by
  obtain ⟨below, total⟩ := next_write_count rb valid bytes room block
  refine ⟨⟨valid.read, below, valid.size⟩, ?_, total⟩
  rw [← memcpy_added rb valid bytes room block, XrpRingBuffer.unread, XrpRingBuffer.count, published, total]

section Write

variable (rb : XrpRingBuffer) (valid : rb.Valid) (buf : List UInt8)

include valid

theorem write_some_published : ∃ tail, xrpRbWriteSome rb buf = (published rb (buf.take tail), tail) ∧
    (buf.take tail).length = tail ∧ rb.count + tail < rb.size ∧ rb.write + tail ≤ rb.size ∧
    (tail = 0 ↔ buf = [] ∨ rb.count + 1 = rb.size) := by
  obtain ⟨within, block, room, none_⟩ := tail_room rb valid buf.length
  have length : (buf.take (rbTail rb.read rb.write rb.size buf.length)).length = rbTail rb.read rb.write rb.size buf.length :=
    List.length_take_of_le within
  refine ⟨rbTail rb.read rb.write rb.size buf.length, ?_, length, room, block, none_.trans (or_congr_left List.length_eq_zero_iff)⟩
  rw [xrpRbWriteSome, published, length]

-- A whole call takes what there is room for.
theorem xrp_rb_write_spec : ∃ rest, xrpRbWrite rb buf = (rest, min buf.length (rb.size - 1 - rb.count)) ∧ rest.Valid ∧
    rest.read = rb.read ∧ rest.size = rb.size ∧ rest.unread = rb.unread ++ buf.take (min buf.length (rb.size - 1 - rb.count)) ∧
    rest.count = rb.count + min buf.length (rb.size - 1 - rb.count) := by
  have below := count_below rb valid
  induction length : buf.length using Nat.strongRecOn generalizing rb buf with
  | ind size ih =>
      obtain ⟨tail, some_, taken, room, block, none_⟩ := write_some_published rb valid buf
      obtain ⟨stillValid, unread, count⟩ := published_unread rb valid (buf.take tail) (by omega) (by omega)
      rw [taken] at count
      rw [xrpRbWrite, some_]
      have within : tail ≤ buf.length := by
        rw [← taken, List.length_take]
        exact Nat.min_le_right _ _
      by_cases empty : buf = []
      · subst empty
        rw [if_pos rfl]
        exact ⟨rb, by simp [← length], valid, rfl, rfl, by simp, by simp [← length]⟩
      · rw [if_neg empty]
        by_cases stuck : tail = 0
        · have full := (none_.mp stuck).resolve_left empty
          have nothing : min size (rb.size - 1 - rb.count) = 0 := by omega
          subst stuck
          rw [if_pos rfl, nothing]
          exact ⟨_, rfl, stillValid, rfl, rfl, unread, count⟩
        · rw [if_neg stuck]
          have shorter : (buf.drop tail).length = size - tail := by rw [List.length_drop, length]
          obtain ⟨rest, wrote, restValid, read, same, restUnread, restCount⟩ :=
            ih (size - tail) (by omega) (published rb (buf.take tail)) stillValid (buf.drop tail) (count_below _ stillValid) shorter
          have room_ : (published rb (buf.take tail)).size - 1 - (published rb (buf.take tail)).count = rb.size - 1 - rb.count - tail := by
            have sameSize : (published rb (buf.take tail)).size = rb.size := rfl
            rw [count, sameSize]
            omega
          rw [room_] at wrote restUnread restCount
          have total : tail + min (size - tail) (rb.size - 1 - rb.count - tail) = min size (rb.size - 1 - rb.count) := by omega
          refine ⟨rest, ?_, restValid, read, same, ?_, ?_⟩
          · simp only [wrote, total]
          · rw [restUnread, unread, List.append_assoc, ← total, List.take_add]
          · rw [restCount, count, Nat.add_assoc, total]

end Write

-- Where a call of xrp_rb_write is: at the top of its loop, or in
-- xrp_rb_write_some before the copy or before the new index is stored.
inductive RbPc where
  | idle
  | loop (buf : List UInt8) (total : Nat)
  | copy (buf : List UInt8) (total write tail : Nat)
  | publish (buf : List UInt8) (total write tail : Nat)

-- With the calls that have returned and what they returned, and with the bytes
-- that the host has taken.
structure RbState where
  rb : XrpRingBuffer
  pc : RbPc
  calls : List (List UInt8 × Nat)
  taken : List UInt8

inductive RbEvent where
  | call (buf : List UInt8)
  | step
  | take (count : Nat)

def RbState.return (state : RbState) (buf : List UInt8) (total : Nat) : RbState :=
  { state with pc := .idle, calls := state.calls ++ [(buf, total)] }

def writerStep (state : RbState) : Option RbState :=
  match state.pc with
  | .idle => none
  | .loop buf total =>
      if buf.drop total = [] then some (state.return buf total)
      else
        let tail := rbTail state.rb.read state.rb.write state.rb.size (buf.drop total).length
        some { state with pc := .copy buf total state.rb.write tail }
  | .copy buf total write tail => some { state with
      rb := { state.rb with data := memcpyInto state.rb.data write ((buf.drop total).take tail) }
      pc := .publish buf total write tail }
  | .publish buf total write tail =>
      let stored := { state with rb := { state.rb with write := nextWrite write tail state.rb.size } }
      if tail = 0 then some (stored.return buf total) else some { stored with pc := .loop buf (total + tail) }

-- The host reads bytes that are there, and moves its index behind them.
def hostTake (state : RbState) (count : Nat) : Option RbState :=
  if count ≤ state.rb.count then some { state with
    rb := { state.rb with read := (state.rb.read + count) % state.rb.size }
    taken := state.taken ++ state.rb.unread.take count }
  else none

def rbStep (state : RbState) : RbEvent → Option RbState
  | .call buf =>
      match state.pc with
      | .idle => some { state with pc := .loop buf 0 }
      | _ => none
  | .step => writerStep state
  | .take count => hostTake state count

-- The bytes that the calls have written so far.
def RbPc.written : RbPc → List UInt8
  | .idle => []
  | .loop buf total | .copy buf total _ _ | .publish buf total _ _ => buf.take total

def RbState.accepted (state : RbState) : List UInt8 := (state.calls.map fun call => call.1.take call.2).flatten ++ state.pc.written

-- What holds while a copy is under way. The host may make room in the meantime.
def RbPc.Fits (rb : XrpRingBuffer) : RbPc → Prop
  | .idle => True
  | .loop buf total => total ≤ buf.length
  | .copy buf total write tail => total + tail ≤ buf.length ∧ write = rb.write ∧ rb.write + tail ≤ rb.size ∧ rb.count + tail < rb.size
  | .publish buf total write tail => total + tail ≤ buf.length ∧ write = rb.write ∧ rb.write + tail ≤ rb.size ∧
      rb.count + tail < rb.size ∧ ringList rb.size rb.read (rb.count + tail) rb.data = rb.unread ++ (buf.drop total).take tail

structure RbInv (state : RbState) : Prop where
  valid : state.rb.Valid
  stream : state.taken ++ state.rb.unread = state.accepted
  fits : state.pc.Fits state.rb
  short : ∀ call ∈ state.calls, call.2 ≤ call.1.length

theorem return_inv (state : RbState) (buf : List UInt8) (total : Nat) (within : total ≤ buf.length) (valid : state.rb.Valid)
    (stream : state.taken ++ state.rb.unread = (state.calls.map fun call => call.1.take call.2).flatten ++ buf.take total)
    (short : ∀ call ∈ state.calls, call.2 ≤ call.1.length) : RbInv (state.return buf total) := by
  refine ⟨valid, ?_, trivial, ?_⟩
  · rw [RbState.accepted]
    simp only [RbState.return, List.map_append, List.map_cons, List.map_nil, List.flatten_append, List.flatten_singleton, RbPc.written,
      List.append_nil]
    exact stream
  · intro call listed
    rcases List.mem_append.mp listed with before | last
    · exact short call before
    · rw [List.mem_singleton.mp last]
      exact within

theorem writer_step_inv (state next : RbState) (inv : RbInv state) (taken : writerStep state = some next) : RbInv next := by
  obtain ⟨rb, pc, calls, taken_⟩ := state
  have valid : rb.Valid := inv.valid
  have stream : taken_ ++ rb.unread = (calls.map fun call => call.1.take call.2).flatten ++ pc.written := inv.stream
  have fits : pc.Fits rb := inv.fits
  have short := inv.short
  cases pc with
  | idle => cases taken
  | loop buf total =>
      simp only [writerStep] at taken
      split at taken
      · cases taken
        exact return_inv _ buf total fits valid stream short
      · cases taken
        obtain ⟨within, block, room, -⟩ := tail_room rb valid (buf.drop total).length
        have inBuf : total ≤ buf.length := fits
        have rest := List.length_drop (i := total) (l := buf)
        exact ⟨valid, stream, ⟨by omega, rfl, block, room⟩, short⟩
  | copy buf total write tail =>
      cases taken
      obtain ⟨within, rfl, block, room⟩ := fits
      have length : ((buf.drop total).take tail).length = tail := List.length_take_of_le (by rw [List.length_drop]; omega)
      have kept := memcpy_unread rb valid ((buf.drop total).take tail) (by rw [length]; exact room) (by rw [length]; exact block)
      have added := memcpy_added rb valid ((buf.drop total).take tail) (by rw [length]; exact room) (by rw [length]; exact block)
      rw [length] at added
      refine ⟨⟨valid.read, valid.write, valid.size⟩, (congrArg (taken_ ++ ·) kept).trans stream,
        ⟨within, rfl, block, room, added.trans (congrArg (· ++ _) kept.symm)⟩, short⟩
  | publish buf total write tail =>
      obtain ⟨within, same, block, room, ready⟩ := fits
      obtain rfl : write = rb.write := same
      have length : (List.replicate tail (0 : UInt8)).length = tail := List.length_replicate
      obtain ⟨below, count⟩ := next_write_count rb valid (List.replicate tail 0) (by rw [length]; exact room) (by rw [length]; exact block)
      rw [length] at below count
      have now : XrpRingBuffer.unread { rb with write := nextWrite rb.write tail rb.size } = rb.unread ++ (buf.drop total).take tail := by
        rw [← ready, XrpRingBuffer.unread, XrpRingBuffer.count]
        simp only [count]
      have nextStream : taken_ ++ XrpRingBuffer.unread { rb with write := nextWrite rb.write tail rb.size } =
          (calls.map fun call => call.1.take call.2).flatten ++ buf.take (total + tail) := by
        rw [now, ← List.append_assoc, stream, RbPc.written, List.append_assoc, List.take_add]
      have nextValid : XrpRingBuffer.Valid { rb with write := nextWrite rb.write tail rb.size } := ⟨valid.read, below, valid.size⟩
      simp only [writerStep] at taken
      split at taken
      case isTrue stuck =>
        cases taken
        subst stuck
        exact return_inv _ buf total (by omega) nextValid nextStream short
      case isFalse =>
        cases taken
        exact ⟨nextValid, nextStream, within, short⟩

theorem ring_drop (size head first rest : Nat) (cells : Nat → UInt8) :
    ringList size ((head + first) % size) rest cells = (ringList size head (first + rest) cells).drop first := by
  refine List.ext_getElem (by simp [ring_length]) fun place one two => ?_
  simp only [ringList, List.getElem_map, List.getElem_range, List.getElem_drop, Nat.mod_add_mod, Nat.add_assoc]

theorem taken_count (rb : XrpRingBuffer) (valid : rb.Valid) (count : Nat) (within : count ≤ rb.count) :
    unreadCount ((rb.read + count) % rb.size) rb.write rb.size = rb.count - count := by
  obtain ⟨read, write, -⟩ := valid
  rw [XrpRingBuffer.count, unreadCount] at within
  rw [XrpRingBuffer.count, unreadCount, unreadCount]
  by_cases below : rb.read + count < rb.size
  · rw [Nat.mod_eq_of_lt below]
    split at within <;> split <;> omega
  · have wrapped : (rb.read + count) % rb.size = rb.read + count - rb.size := by
      rw [Nat.mod_eq_sub_mod (by omega), Nat.mod_eq_of_lt (by split at within <;> omega)]
    rw [wrapped]
    split at within <;> split <;> omega

theorem host_take_inv (state next : RbState) (count : Nat) (inv : RbInv state) (taken : hostTake state count = some next) : RbInv next := by
  obtain ⟨rb, pc, calls, taken_⟩ := state
  have valid : rb.Valid := inv.valid
  have stream : taken_ ++ rb.unread = (calls.map fun call => call.1.take call.2).flatten ++ pc.written := inv.stream
  have fits : pc.Fits rb := inv.fits
  have short := inv.short
  simp only [hostTake] at taken
  split at taken
  case isFalse => cases taken
  case isTrue within =>
    cases taken
    have left := taken_count rb valid count within
    have length : rb.unread.length = rb.count := ring_length ..
    have rest : XrpRingBuffer.unread { rb with read := (rb.read + count) % rb.size } = rb.unread.drop count := by
      have total : count + (rb.count - count) = rb.count := by omega
      rw [XrpRingBuffer.unread, XrpRingBuffer.count]
      simp only [left]
      rw [ring_drop, total]
      rfl
    have positive : 0 < rb.size := by
      have read := valid.read
      omega
    refine ⟨⟨Nat.mod_lt _ positive, valid.write, valid.size⟩, ?_, ?_, short⟩
    · simp only [rest, List.append_assoc, List.take_append_drop]
      exact stream
    · cases pc with
      | idle => trivial
      | loop buf total => exact fits
      | copy buf total write tail =>
          obtain ⟨inBuf, same, block, room⟩ := fits
          refine ⟨inBuf, same, block, ?_⟩
          rw [XrpRingBuffer.count]
          simp only [left]
          omega
      | publish buf total write tail =>
          obtain ⟨inBuf, same, block, room, ready⟩ := fits
          refine ⟨inBuf, same, block, ?_, ?_⟩
          · rw [XrpRingBuffer.count]
            simp only [left]
            omega
          · have total_ : count + (rb.count - count + tail) = rb.count + tail := by omega
            rw [rest, XrpRingBuffer.count]
            simp only [left]
            rw [ring_drop, total_, ready, List.drop_append_of_le_length (by omega)]

theorem rb_step_inv (state : RbState) (event : RbEvent) (next : RbState) (inv : RbInv state) (taken : rbStep state event = some next) :
    RbInv next := by
  cases event with
  | call buf =>
      obtain ⟨rb, pc, calls, taken_⟩ := state
      cases pc with
      | idle =>
          cases taken
          obtain ⟨valid, stream, -, short⟩ := inv
          exact ⟨valid, stream, Nat.zero_le _, short⟩
      | loop | copy | publish => cases taken
  | step => exact writer_step_inv state next inv taken
  | take count => exact host_take_inv state next count inv taken

-- Without the host the steps of a call do what xrp_rb_write does.
theorem loop_runs (rb : XrpRingBuffer) (buf : List UInt8) (total : Nat) (calls : List (List UInt8 × Nat)) (taken : List UInt8) :
    ∃ count, run rbStep ⟨rb, .loop buf total, calls, taken⟩ (List.replicate count .step) =
      some ⟨(xrpRbWrite rb (buf.drop total)).1, .idle, calls ++ [(buf, total + (xrpRbWrite rb (buf.drop total)).2)], taken⟩ := by
  induction length : (buf.drop total).length using Nat.strongRecOn generalizing rb total with
  | ind size ih =>
      rw [xrpRbWrite]
      by_cases done : buf.drop total = []
      · refine ⟨1, ?_⟩
        rw [if_pos done]
        simp [run, rbStep, writerStep, done, RbState.return]
      · rw [if_neg done]
        have turn (more : Nat) : run rbStep ⟨rb, .loop buf total, calls, taken⟩ (List.replicate (more + 3) .step) =
            run rbStep ⟨rb, .loop buf total, calls, taken⟩ (.step :: .step :: .step :: List.replicate more .step) := rfl
        by_cases stuck : (xrpRbWriteSome rb (buf.drop total)).2 = 0
        · refine ⟨3, ?_⟩
          rw [if_pos stuck, turn 0]
          have tail : rbTail rb.read rb.write rb.size (buf.drop total).length = 0 := stuck
          simp only [run, rbStep, writerStep, if_neg done, Option.bind_some, tail, if_true, List.replicate]
          simp only [RbState.return, xrpRbWriteSome, tail, Nat.add_zero]
        · have shorter : (buf.drop (total + (xrpRbWriteSome rb (buf.drop total)).2)).length < size := by
            rw [List.length_drop] at length ⊢
            have some_ : 0 < (buf.drop total).length := List.length_pos_iff.mpr done
            rw [List.length_drop] at some_
            omega
          obtain ⟨count, ran⟩ := ih _ shorter (xrpRbWriteSome rb (buf.drop total)).1 (total + (xrpRbWriteSome rb (buf.drop total)).2) rfl
          have tail : rbTail rb.read rb.write rb.size (buf.drop total).length ≠ 0 := stuck
          refine ⟨count + 3, ?_⟩
          rw [if_neg stuck, turn count, List.drop_drop]
          simp only [run, rbStep, writerStep, if_neg done, Option.bind_some, if_neg tail]
          refine ran.trans ?_
          rw [Nat.add_assoc]

section Stream

variable (rb : XrpRingBuffer) (valid : rb.Valid) (empty : rb.count = 0) (events : List RbEvent) (finish : RbState)
  (ran : run rbStep ⟨rb, .idle, [], []⟩ events = some finish)

include valid empty ran

-- What the host has taken and what is in the ring is what the calls have
-- written, byte by byte, and a call that runs alone fills the ring.
theorem rb_stream : finish.taken ++ finish.rb.unread = finish.accepted ∧ finish.rb.count < finish.rb.size ∧
    (∀ call ∈ finish.calls, call.2 ≤ call.1.length) ∧
    (finish.pc = .idle → ∀ buf, ∃ count after, run rbStep finish (.call buf :: List.replicate count .step) = some after ∧
      after.calls = finish.calls ++ [(buf, min buf.length (finish.rb.size - 1 - finish.rb.count))] ∧
      after.rb.unread = finish.rb.unread ++ buf.take (min buf.length (finish.rb.size - 1 - finish.rb.count))) := by
  have none_ : rb.unread = [] := List.length_eq_zero_iff.mp ((ring_length ..).trans empty)
  have started : RbInv ⟨rb, .idle, [], []⟩ := ⟨valid, none_, trivial, fun call listed => absurd listed List.not_mem_nil⟩
  have inv := run_invariant rbStep RbInv (fun state event next held taken => rb_step_inv state event next held taken) _ finish events started ran
  refine ⟨inv.stream, count_below finish.rb inv.valid, inv.short, fun idle buf => ?_⟩
  obtain ⟨now, pc, calls, taken⟩ := finish
  cases idle
  obtain ⟨count, wrote⟩ := loop_runs now buf 0 calls taken
  obtain ⟨rest, same, -, -, -, unread, -⟩ := xrp_rb_write_spec now inv.valid buf
  rw [List.drop_zero, same, Nat.zero_add] at wrote
  exact ⟨count, _, wrote, rfl, unread⟩

end Stream

def fourBytes : XrpRingBuffer := ⟨3, 3, 4, fun _ => 0⟩

-- The host takes a byte in the middle of a call.
def streamScript : List RbEvent := [.call [1, 2, 3, 4, 5], .step, .step, .step, .take 1, .step, .step, .step, .step, .step, .step]

theorem rb_stream_four : ∃ finish, run rbStep ⟨fourBytes, .idle, [], []⟩ streamScript = some finish ∧
    finish.taken ++ finish.rb.unread = finish.accepted ∧ finish.accepted = [1, 2, 3, 4] := by
  refine ⟨_, rfl, ?_, rfl⟩
  exact (rb_stream fourBytes ⟨by decide, by decide, by decide⟩ rfl streamScript _ rfl).1

end CsiDsp.RbFile
