import QuicServer.Basic
import Mathlib.Data.List.Infix

/-!
# The handshake bridge

The TLS engine talks to a handler through a BIO that never touches a socket. `bio_write`
appends the engine's output to `chandshake`, and `send_server_cleartext` hands ngtcp2 its
unread suffix; `recv_handshake_data` appends the client's bytes to `shandshake`, and
`bio_read` copies at most `len` unread bytes of it. Both queues are append-only, each with
one read cursor. Over every run of bridge calls the cursors stay within their queues and
what was read out of a queue is its prefix up to the cursor, so the bridge behaves as two
first-in first-out byte pipes (`Pipes`).
-/
namespace QuicServer

/-- The four bridge fields of `Handler`. -/
structure Bridge where
  chandshake : List UInt8
  ncread : ℕ
  shandshake : List UInt8
  nsread : ℕ
  deriving DecidableEq, Repr

namespace Bridge

/-- The queues as `Handler::Handler` leaves them. -/
def init : Bridge := ⟨[], 0, [], 0⟩

/-- `Handler::write_server_handshake` -/
def writeServerHandshake (b : Bridge) (data : List UInt8) : Bridge :=
  { b with chandshake := b.chandshake ++ data }

/-- `Handler::read_server_handshake`: the unread suffix; afterwards nothing is unread. -/
def readServerHandshake (b : Bridge) : List UInt8 × Bridge :=
  (b.chandshake.drop b.ncread, { b with ncread := b.chandshake.length })

/-- `Handler::read_client_handshake`: copies `min buflen (size - nsread)` unread bytes. -/
def readClientHandshake (b : Bridge) (buflen : ℕ) : List UInt8 × Bridge :=
  let n := min buflen (b.shandshake.length - b.nsread)
  ((b.shandshake.drop b.nsread).take n, { b with nsread := b.nsread + n })

/-- `Handler::write_client_handshake` -/
def writeClientHandshake (b : Bridge) (data : List UInt8) : Bridge :=
  { b with shandshake := b.shandshake ++ data }

@[simp] theorem readClientHandshake_fst_length (b : Bridge) (buflen : ℕ) :
    (b.readClientHandshake buflen).1.length = min buflen (b.shandshake.length - b.nsread) := by
  simp only [readClientHandshake, List.length_take, List.length_drop]
  omega

end Bridge

/-- What `bio_read` gives the TLS engine: its return value, whether the retry-read flag is
set, and the bytes copied into `buf`. -/
structure BioRead where
  ret : ℤ
  retryRead : Bool
  data : List UInt8
  deriving DecidableEq, Repr

/-- `bio_write`: every one of the `len` bytes is accepted. -/
def bioWrite (b : Bridge) (buf : List UInt8) : ℤ × Bridge :=
  (buf.length, b.writeServerHandshake buf)

/-- `bio_puts`: `bio_write` of the bytes before the terminating NUL. -/
def bioPuts (b : Bridge) (str : List UInt8) : ℤ × Bridge :=
  bioWrite b (str.takeWhile fun c => c != 0)

/-- `bio_read`: when nothing was copied it asks the engine to retry, never reports the end
of the stream. -/
def bioRead (b : Bridge) (len : ℕ) : BioRead × Bridge :=
  let res := b.readClientHandshake len
  if res.1.length = 0 then (⟨-1, true, res.1⟩, res.2) else (⟨res.1.length, false, res.1⟩, res.2)

@[simp] theorem bioRead_snd (b : Bridge) (len : ℕ) :
    (bioRead b len).2 = (b.readClientHandshake len).2 := by
  dsimp only [bioRead]; split <;> rfl

@[simp] theorem bioRead_data (b : Bridge) (len : ℕ) :
    (bioRead b len).1.data = (b.readClientHandshake len).1 := by
  dsimp only [bioRead]; split <;> rfl

/-- What the TLS engine does through the BIO during one `SSL_do_handshake`. -/
inductive BioOp where
  | write (buf : List UInt8)
  | puts (str : List UInt8)
  | read (len : ℕ)
  deriving DecidableEq, Repr

/-- A call into the bridge: BIO traffic of the TLS engine, or one of the two handler methods
the transport engine's callbacks use. -/
inductive BioCall where
  | bio (op : BioOp)
  | clientHandshake (data : List UInt8)
  | serverHandshake
  deriving DecidableEq, Repr

/-- Bytes a call appends to `shandshake`. -/
def BioCall.clientBytes : BioCall → List UInt8
  | .clientHandshake data => data
  | _ => []

/-- Bytes a call appends to `chandshake`: what `bio_write` and `bio_puts` accept. -/
def BioCall.serverBytes : BioCall → List UInt8
  | .bio (.write buf) => buf
  | .bio (.puts str) => str.takeWhile fun c => c != 0
  | _ => []

/-- The bridge after one call. -/
def Bridge.call (b : Bridge) : BioCall → Bridge
  | .bio (.write buf) => (bioWrite b buf).2
  | .bio (.puts str) => (bioPuts b str).2
  | .bio (.read len) => (bioRead b len).2
  | .clientHandshake data => b.writeClientHandshake data
  | .serverHandshake => b.readServerHandshake.2

/-- A bridge with what it has given out so far: `delivered`, every byte `bio_read` copied to
the TLS engine, and `handed`, every byte `read_server_handshake` passed to ngtcp2. -/
structure Trace where
  bridge : Bridge
  delivered : List UInt8
  handed : List UInt8
  deriving DecidableEq, Repr

namespace Trace

def init : Trace := ⟨Bridge.init, [], []⟩

def step (t : Trace) : BioCall → Trace
  | .bio (.write buf) => { t with bridge := (bioWrite t.bridge buf).2 }
  | .bio (.puts str) => { t with bridge := (bioPuts t.bridge str).2 }
  | .bio (.read len) =>
    { t with bridge := (bioRead t.bridge len).2,
             delivered := t.delivered ++ (bioRead t.bridge len).1.data }
  | .clientHandshake data => { t with bridge := t.bridge.writeClientHandshake data }
  | .serverHandshake =>
    { t with bridge := t.bridge.readServerHandshake.2,
             handed := t.handed ++ t.bridge.readServerHandshake.1 }

def run (t : Trace) (calls : List BioCall) : Trace := calls.foldl step t

@[simp] theorem run_nil (t : Trace) : t.run [] = t := rfl

@[simp] theorem run_append (t : Trace) (xs ys : List BioCall) :
    t.run (xs ++ ys) = (t.run xs).run ys := List.foldl_append _ _ _ _

@[simp] theorem run_singleton (t : Trace) (c : BioCall) : t.run [c] = t.step c := rfl

theorem step_bridge (t : Trace) (c : BioCall) : (t.step c).bridge = t.bridge.call c := by
  rcases c with (_ | _ | _) | _ | _ <;> rfl

theorem run_bridge (t : Trace) (calls : List BioCall) :
    (t.run calls).bridge = calls.foldl Bridge.call t.bridge := by
  induction calls generalizing t with
  | nil => rfl
  | cons c calls ih => exact (ih (t.step c)).trans (by rw [step_bridge]; rfl)

theorem step_shandshake (t : Trace) (c : BioCall) :
    (t.step c).bridge.shandshake = t.bridge.shandshake ++ c.clientBytes := by
  rcases c with (_ | _ | _) | _ | _ <;>
    simp [step, bioWrite, bioPuts, BioCall.clientBytes, Bridge.writeServerHandshake,
      Bridge.readClientHandshake, Bridge.writeClientHandshake, Bridge.readServerHandshake]

theorem step_chandshake (t : Trace) (c : BioCall) :
    (t.step c).bridge.chandshake = t.bridge.chandshake ++ c.serverBytes := by
  rcases c with (_ | _ | _) | _ | _ <;>
    simp [step, bioWrite, bioPuts, BioCall.serverBytes, Bridge.writeServerHandshake,
      Bridge.readClientHandshake, Bridge.writeClientHandshake, Bridge.readServerHandshake]

theorem run_shandshake (t : Trace) (calls : List BioCall) :
    (t.run calls).bridge.shandshake = t.bridge.shandshake ++ calls.flatMap BioCall.clientBytes := by
  induction calls using List.reverseRecOn with
  | nil => simp
  | append_singleton calls c ih => simp [step_shandshake, ih]

theorem run_chandshake (t : Trace) (calls : List BioCall) :
    (t.run calls).bridge.chandshake = t.bridge.chandshake ++ calls.flatMap BioCall.serverBytes := by
  induction calls using List.reverseRecOn with
  | nil => simp
  | append_singleton calls c ih => simp [step_chandshake, ih]

/-- Both cursors lie within their queues, and what was read out of each queue is its prefix
up to the cursor. -/
structure Coherent (t : Trace) : Prop where
  nsread_le : t.bridge.nsread ≤ t.bridge.shandshake.length
  ncread_le : t.bridge.ncread ≤ t.bridge.chandshake.length
  delivered_eq : t.delivered = t.bridge.shandshake.take t.bridge.nsread
  handed_eq : t.handed = t.bridge.chandshake.take t.bridge.ncread

theorem coherent_init : init.Coherent := ⟨le_rfl, le_rfl, rfl, rfl⟩

theorem step_coherent {t : Trace} (h : t.Coherent) (c : BioCall) : (t.step c).Coherent := by
  obtain ⟨hs, hc, hd, hh⟩ := h
  rcases c with (buf | str | len) | data | _
  · exact ⟨hs, by simp [step, bioWrite, Bridge.writeServerHandshake]; omega, hd,
      by simp [step, bioWrite, Bridge.writeServerHandshake, List.take_append_of_le_length hc, hh]⟩
  · exact ⟨hs, by simp [step, bioPuts, bioWrite, Bridge.writeServerHandshake]; omega, hd,
      by simp [step, bioPuts, bioWrite, Bridge.writeServerHandshake,
        List.take_append_of_le_length hc, hh]⟩
  · refine ⟨?_, by simpa [step, Bridge.readClientHandshake] using hc, ?_,
      by simpa [step, Bridge.readClientHandshake] using hh⟩
    · simp [step, Bridge.readClientHandshake]; omega
    · simp [step, Bridge.readClientHandshake, List.take_add, hd]
  · exact ⟨by simp [step, Bridge.writeClientHandshake]; omega, hc,
      by simp [step, Bridge.writeClientHandshake, List.take_append_of_le_length hs, hd], hh⟩
  · exact ⟨hs, by simp [step, Bridge.readServerHandshake], hd,
      by simp [step, Bridge.readServerHandshake, hh]⟩

theorem run_coherent {t : Trace} (h : t.Coherent) (calls : List BioCall) :
    (t.run calls).Coherent := by
  induction calls generalizing t with
  | nil => exact h
  | cons c calls ih => exact ih (step_coherent h c)

end Trace


namespace Trace

theorem step_ncread (t : Trace) {c : BioCall} (hc : c ≠ .serverHandshake) :
    (t.step c).bridge.ncread = t.bridge.ncread := by
  rcases c with (_ | _ | _) | _ | _ <;>
    simp_all [step, bioWrite, bioPuts, Bridge.writeServerHandshake, Bridge.readClientHandshake,
      Bridge.writeClientHandshake]

theorem run_ncread (t : Trace) {calls : List BioCall} (hc : BioCall.serverHandshake ∉ calls) :
    (t.run calls).bridge.ncread = t.bridge.ncread := by
  induction calls generalizing t with
  | nil => rfl
  | cons c calls ih =>
    simp only [List.mem_cons, not_or] at hc
    exact (ih _ hc.2).trans (step_ncread t (Ne.symm hc.1))

end Trace

/-- `bio_read` on a bridge whose read cursor lies within `shandshake`, asked for `len > 0`
bytes: it copies the next `min len unread` bytes and asks for a retry exactly when none is
unread. -/
theorem bioRead_spec (b : Bridge) (hb : b.nsread ≤ b.shandshake.length) {len : ℕ}
    (hlen : 0 < len) :
    (bioRead b len).1.data = (b.shandshake.drop b.nsread).take len ∧
    (bioRead b len).1.data.length = min len (b.shandshake.length - b.nsread) ∧
    ((bioRead b len).1.retryRead = true ↔ b.nsread = b.shandshake.length) ∧
    (bioRead b len).1.ret =
      if (bioRead b len).1.retryRead then -1 else ((bioRead b len).1.data.length : ℤ) := by
  have hn : (b.readClientHandshake len).1.length = 0 ↔ b.nsread = b.shandshake.length := by
    rw [Bridge.readClientHandshake_fst_length]; omega
  refine ⟨?_, by simp, ?_, ?_⟩
  · simp only [bioRead_data, Bridge.readClientHandshake]
    rw [List.take_eq_take]; simp
  · dsimp only [bioRead]; split <;> simp_all
  · dsimp only [bioRead]; split <;> simp_all

/-- What the bridge is for: two first-in first-out byte queues, the client's handshake bytes
waiting for the TLS engine and the TLS engine's bytes waiting for ngtcp2, with everything
taken out of each so far. -/
structure Pipes where
  toTls : List UInt8
  toNgtcp2 : List UInt8
  delivered : List UInt8
  handed : List UInt8
  deriving DecidableEq, Repr

namespace Pipes

def step (p : Pipes) : BioCall → Pipes
  | .bio (.write buf) => { p with toNgtcp2 := p.toNgtcp2 ++ buf }
  | .bio (.puts str) => { p with toNgtcp2 := p.toNgtcp2 ++ str.takeWhile fun c => c != 0 }
  | .bio (.read len) =>
    { p with toTls := p.toTls.drop len, delivered := p.delivered ++ p.toTls.take len }
  | .clientHandshake data => { p with toTls := p.toTls ++ data }
  | .serverHandshake => { p with toNgtcp2 := [], handed := p.handed ++ p.toNgtcp2 }

def run (p : Pipes) (calls : List BioCall) : Pipes := calls.foldl step p

/-- Nothing is lost, duplicated or reordered: what was taken out of a queue, followed by
what is still in it, is everything put into it. -/
theorem run_conserves (p : Pipes) (calls : List BioCall) :
    (p.run calls).delivered ++ (p.run calls).toTls =
      p.delivered ++ p.toTls ++ calls.flatMap BioCall.clientBytes ∧
    (p.run calls).handed ++ (p.run calls).toNgtcp2 =
      p.handed ++ p.toNgtcp2 ++ calls.flatMap BioCall.serverBytes := by
  induction calls generalizing p with
  | nil => simp [run]
  | cons c calls ih =>
    obtain ⟨h1, h2⟩ := ih (p.step c)
    simp only [run, List.foldl_cons] at h1 h2 ⊢
    rw [h1, h2]
    rcases c with (_ | _ | _) | _ | _ <;>
      simp [step, BioCall.clientBytes, BioCall.serverBytes]

end Pipes

/-- The queues a trace still holds, and what it has given out. -/
def Trace.pipes (t : Trace) : Pipes :=
  ⟨t.bridge.shandshake.drop t.bridge.nsread, t.bridge.chandshake.drop t.bridge.ncread,
    t.delivered, t.handed⟩

/-- The cursor implementation refines the queues, call by call. -/
theorem Trace.pipes_step {t : Trace} (h : t.Coherent) (c : BioCall) :
    (t.step c).pipes = t.pipes.step c := by
  obtain ⟨hs, hc, -, -⟩ := h
  rcases c with (buf | str | len) | data | _ <;>
    simp [pipes, step, Pipes.step, bioWrite, bioPuts, Bridge.writeServerHandshake,
      Bridge.readClientHandshake, Bridge.writeClientHandshake, Bridge.readServerHandshake,
      List.drop_append_of_le_length, hs, hc]
  rcases le_total len (t.bridge.shandshake.length - t.bridge.nsread) with hl | hl
  · rw [min_eq_left hl]
  · rw [min_eq_right hl, List.drop_of_length_le (by omega), List.drop_of_length_le (by omega)]

theorem Trace.pipes_run {t : Trace} (h : t.Coherent) (calls : List BioCall) :
    (t.run calls).pipes = t.pipes.run calls := by
  induction calls generalizing t with
  | nil => rfl
  | cons c calls ih =>
    simp only [run, Pipes.run, List.foldl_cons] at ih ⊢
    rw [ih (step_coherent h c), pipes_step h c]

/-- A run from the constructor's state, in the queues' terms: the bytes read out of each
queue, followed by those still unread, are exactly the bytes written into it. -/
theorem Trace.run_conserves (calls : List BioCall) :
    let t := init.run calls
    t.delivered ++ t.bridge.shandshake.drop t.bridge.nsread = calls.flatMap BioCall.clientBytes ∧
    t.handed ++ t.bridge.chandshake.drop t.bridge.ncread = calls.flatMap BioCall.serverBytes := by
  have h := Pipes.run_conserves init.pipes calls
  rw [← pipes_run coherent_init] at h
  simpa [pipes, init, Bridge.init] using h

/-- Every run of bridge calls from the constructor's state, followed by one `bio_read` of
`len > 0` bytes: the read cursor lies within `shandshake`, which holds every chunk written so
far in order; the read copies the next `min len unread` bytes and asks for a retry exactly when
nothing is unread; and what `bio_read` has delivered is the input's prefix of its own length. -/
theorem bioRead_fifo (calls : List BioCall) {len : ℕ} (hlen : 0 < len) :
    let t := Trace.init.run calls
    let r := (bioRead t.bridge len).1
    t.bridge.nsread ≤ t.bridge.shandshake.length ∧
    t.bridge.shandshake = calls.flatMap BioCall.clientBytes ∧
    r.data = (t.bridge.shandshake.drop t.bridge.nsread).take len ∧
    r.data.length = min len (t.bridge.shandshake.length - t.bridge.nsread) ∧
    (r.retryRead = true ↔ t.bridge.nsread = t.bridge.shandshake.length) ∧
    r.ret = (if r.retryRead then -1 else (r.data.length : ℤ)) ∧
    t.delivered.length = t.bridge.nsread ∧
    t.delivered = (calls.flatMap BioCall.clientBytes).take t.delivered.length := by
  intro t r
  have hc := Trace.run_coherent Trace.coherent_init calls
  have hs : t.bridge.shandshake = calls.flatMap BioCall.clientBytes := by
    simpa [Trace.init, Bridge.init] using Trace.run_shandshake Trace.init calls
  have hlen' : t.delivered.length = t.bridge.nsread := by
    rw [hc.delivered_eq, List.length_take]; exact min_eq_left hc.nsread_le
  obtain ⟨h1, h2, h3, h4⟩ := bioRead_spec t.bridge hc.nsread_le hlen
  exact ⟨hc.nsread_le, hs, h1, h2, h3, h4, hlen', by rw [hlen', ← hs]; exact hc.delivered_eq⟩

/-- The laws at a read of four bytes after a three-byte chunk and a two-byte read. -/
theorem bioRead_fifo_sample :
    0 < 4 ∧
    let calls := [BioCall.clientHandshake [1, 2, 3], .bio (.read 2)]
    let t := Trace.init.run calls
    let r := (bioRead t.bridge 4).1
    t.bridge.nsread ≤ t.bridge.shandshake.length ∧
    t.bridge.shandshake = calls.flatMap BioCall.clientBytes ∧
    r.data = (t.bridge.shandshake.drop t.bridge.nsread).take 4 ∧
    r.data.length = min 4 (t.bridge.shandshake.length - t.bridge.nsread) ∧
    (r.retryRead = true ↔ t.bridge.nsread = t.bridge.shandshake.length) ∧
    r.ret = (if r.retryRead then -1 else (r.data.length : ℤ)) ∧
    t.delivered.length = t.bridge.nsread ∧
    t.delivered = (calls.flatMap BioCall.clientBytes).take t.delivered.length :=
  ⟨by decide, bioRead_fifo _ (by decide)⟩

/-- Every run of bridge calls from the constructor's state: the write cursor lies within
`chandshake`, which holds everything the TLS engine wrote; the next `read_server_handshake`
returns the unread suffix and leaves nothing unread, so the slices handed to ngtcp2 add up to
everything written; and a read returns exactly what was written since the previous one. -/
theorem readServerHandshake_fifo :
    (∀ calls : List BioCall,
      let t := Trace.init.run calls
      t.bridge.ncread ≤ t.bridge.chandshake.length ∧
      t.bridge.chandshake = calls.flatMap BioCall.serverBytes ∧
      t.bridge.readServerHandshake.1 = t.bridge.chandshake.drop t.bridge.ncread ∧
      t.bridge.readServerHandshake.2.ncread = t.bridge.readServerHandshake.2.chandshake.length ∧
      t.handed ++ t.bridge.readServerHandshake.1 = calls.flatMap BioCall.serverBytes) ∧
    (∀ pre mid : List BioCall, BioCall.serverHandshake ∉ mid →
      (Trace.init.run (pre ++ BioCall.serverHandshake :: mid)).bridge.readServerHandshake.1 =
        mid.flatMap BioCall.serverBytes) := by
  refine ⟨fun calls => ?_, fun pre mid hmid => ?_⟩
  · have hc := Trace.run_coherent Trace.coherent_init calls
    have hw : (Trace.init.run calls).bridge.chandshake = calls.flatMap BioCall.serverBytes := by
      simpa [Trace.init, Bridge.init] using Trace.run_chandshake Trace.init calls
    exact ⟨hc.ncread_le, hw, rfl, rfl, (Trace.run_conserves calls).2⟩
  · set t := (Trace.init.run pre).step .serverHandshake
    have hn : (t.run mid).bridge.ncread = t.bridge.chandshake.length :=
      Trace.run_ncread t hmid
    have hrun : Trace.init.run (pre ++ .serverHandshake :: mid) = t.run mid := by
      simp [t, Trace.run, List.foldl_append]
    rw [hrun, Bridge.readServerHandshake, hn, Trace.run_chandshake, List.drop_left]

/-- After a read, a two-byte write: the next read returns those two bytes. -/
theorem readServerHandshake_fifo_sample :
    (Trace.init.run ([.bio (.write [7]), .serverHandshake] ++
      .serverHandshake :: [.bio (.write [1, 2])])).bridge.readServerHandshake.1 = [1, 2] :=
  readServerHandshake_fifo.2 _ _ (by decide)

end QuicServer
