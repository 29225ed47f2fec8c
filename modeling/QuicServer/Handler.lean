import QuicServer.Bio
import QuicServer.CryptoContext

/-!
# Handlers and the callbacks ngtcp2 makes into them

A `Handler` is one QUIC session: its peer, the handshake bridge, its `ngtcp2_conn` and its
idle timer. While it parses and builds packets, ngtcp2 calls back into the handler:
`recv_handshake_data` with the client's handshake bytes, `send_server_cleartext` for the
server's, and `handshake_completed` when the keys are due. The first two run one
`SSL_do_handshake` each (`tls_handshake`); what the TLS engine does in that step is an input,
`SslStep`. `tls_handshake` tells ngtcp2 that the handshake is complete on every step that
returns a positive value, not only on the first one.
-/
namespace QuicServer

/-- The classes of `SSL_get_error` that `tls_handshake` tells apart. -/
inductive SslError where
  | wantRead
  | wantWrite
  | ssl
  | other (code : ℕ)
  deriving DecidableEq, Repr

/-- One `SSL_do_handshake`: the engine's BIO traffic, its return value, and what
`SSL_get_error` reports for that value. -/
structure SslStep where
  bio : List BioOp
  rv : ℤ
  err : SslError
  deriving DecidableEq, Repr

/-- Whether `tls_handshake` lets its caller go on: a positive result, or a would-block. -/
def SslStep.ok (st : SslStep) : Bool :=
  decide (0 < st.rv) || st.err == .wantRead || st.err == .wantWrite

/-- `Handler`, with the fields the modelled functions use. `conn` is the connection id that
`ngtcp2_conn_server_new` was given, `none` while `conn_` is null; `timer` is the deadline of
`timer_` while it is active; `calls` logs every call on `conn_`, in order. -/
structure Handler where
  remoteAddr : SockAddr
  maxPktlen : ℕ
  bridge : Bridge
  conn : Option UInt64
  timer : Option ℕ
  calls : List ConnCall
  deriving DecidableEq, Repr

namespace Handler

/-- `Handler::Handler`: no peer yet, empty queues, no connection, timer not started. -/
def new : Handler := ⟨⟨.other 0, []⟩, 0, Bridge.init, none, none, []⟩

/-- A BIO callback of the TLS engine, on the handler's queues. -/
def bio (h : Handler) (op : BioOp) : Handler := { h with bridge := h.bridge.call (.bio op) }

/-- `Handler::tls_handshake`: one `SSL_do_handshake`. A positive result means the handshake is
complete, and ngtcp2 is told so each time. -/
def tlsHandshake (h : Handler) (st : SslStep) : ℤ × Handler :=
  let h := st.bio.foldl bio h
  if st.rv ≤ 0 then
    match st.err with
    | .wantRead | .wantWrite => (0, h)
    | _ => (-1, h)
  else (0, { h with calls := h.calls ++ [.handshakeCompleted] })

/-- `h'` is `h` up to its queues and its call log: what every callback may change. -/
structure Frame (h h' : Handler) : Prop where
  remoteAddr : h'.remoteAddr = h.remoteAddr
  maxPktlen : h'.maxPktlen = h.maxPktlen
  conn : h'.conn = h.conn
  timer : h'.timer = h.timer

theorem Frame.refl (h : Handler) : Frame h h := ⟨rfl, rfl, rfl, rfl⟩

theorem Frame.trans {h₁ h₂ h₃ : Handler} (h₁₂ : Frame h₁ h₂) (h₂₃ : Frame h₂ h₃) :
    Frame h₁ h₃ :=
  ⟨h₂₃.remoteAddr.trans h₁₂.remoteAddr, h₂₃.maxPktlen.trans h₁₂.maxPktlen,
    h₂₃.conn.trans h₁₂.conn, h₂₃.timer.trans h₁₂.timer⟩

theorem frame_bio_foldl (h : Handler) (ops : List BioOp) : Frame h (ops.foldl bio h) := by
  induction ops generalizing h with
  | nil => exact Frame.refl h
  | cons op ops ih => exact (⟨rfl, rfl, rfl, rfl⟩ : Frame h (h.bio op)).trans (ih (h.bio op))

@[simp] theorem bio_foldl_calls (h : Handler) (ops : List BioOp) :
    (ops.foldl bio h).calls = h.calls := by
  induction ops generalizing h with
  | nil => rfl
  | cons op ops ih => exact ih (h.bio op)

theorem bio_foldl_bridge (h : Handler) (ops : List BioOp) :
    (ops.foldl bio h).bridge = (ops.map BioCall.bio).foldl Bridge.call h.bridge := by
  induction ops generalizing h with
  | nil => rfl
  | cons op ops ih => exact ih (h.bio op)

theorem frame_tlsHandshake (h : Handler) (st : SslStep) : Frame h (h.tlsHandshake st).2 := by
  have hf := frame_bio_foldl h st.bio
  unfold tlsHandshake
  split
  · split <;> exact hf
  · exact ⟨hf.remoteAddr, hf.maxPktlen, hf.conn, hf.timer⟩

theorem tlsHandshake_fst_eq_zero (h : Handler) (st : SslStep) :
    (h.tlsHandshake st).1 = 0 ↔ st.ok = true := by
  unfold tlsHandshake SslStep.ok
  split
  · have : ¬0 < st.rv := by omega
    split <;> simp_all
  · simp; omega

theorem tlsHandshake_bridge (h : Handler) (st : SslStep) :
    (h.tlsHandshake st).2.bridge = (st.bio.map BioCall.bio).foldl Bridge.call h.bridge := by
  unfold tlsHandshake
  split
  · split <;> exact bio_foldl_bridge h st.bio
  · exact bio_foldl_bridge h st.bio

theorem tlsHandshake_calls (h : Handler) (st : SslStep) :
    (h.tlsHandshake st).2.calls =
      h.calls ++ if 0 < st.rv then [.handshakeCompleted] else [] := by
  unfold tlsHandshake
  split
  · have : ¬0 < st.rv := by omega
    split <;> simp [this]
  · have : 0 < st.rv := by omega
    simp [this]

end Handler

/-- `std::numeric_limits<int32_t>::max()`, the largest packet number `send_server_cleartext`
draws. -/
def int32Max : ℕ := 2147483647

/-- What `send_server_cleartext` gives ngtcp2: its return value, the packet number it drew if
asked for one, and the handshake bytes `*pdest` points to. -/
structure Cleartext where
  ret : ℤ
  pktNum : Option (Fin (int32Max + 1))
  data : List UInt8
  deriving DecidableEq, Repr

/-- `send_server_cleartext`. `draw` is the value `uniform_int_distribution(0, INT32_MAX)` gives. -/
def sendServerCleartext (env : Env) (h : Handler) (ppktNum : Bool) (st : SslStep)
    (draw : Fin (int32Max + 1)) : Cleartext × Handler :=
  let r := h.tlsHandshake st
  if r.1 ≠ 0 then (⟨env.errCallbackFailure, none, []⟩, r.2) else
  let pktNum := if ppktNum then some draw else none
  let s := r.2.bridge.readServerHandshake
  let h' := { r.2 with bridge := s.2 }
  if ppktNum ∧ s.1.length = 0 then (⟨env.errCallbackFailure, pktNum, s.1⟩, h')
  else (⟨s.1.length, pktNum, s.1⟩, h')

/-- The handler after `send_server_cleartext`: the handshake step, then, if it succeeded, the
read of the server's handshake bytes. -/
theorem sendServerCleartext_snd (env : Env) (h : Handler) (p : Bool) (st : SslStep)
    (d : Fin (int32Max + 1)) :
    (sendServerCleartext env h p st d).2 = if (h.tlsHandshake st).1 ≠ 0 then (h.tlsHandshake st).2
      else { (h.tlsHandshake st).2 with
        bridge := (h.tlsHandshake st).2.bridge.readServerHandshake.2 } := by
  unfold sendServerCleartext
  dsimp only
  split_ifs <;> rfl

/-- `recv_handshake_data` -/
def recvHandshakeData (env : Env) (h : Handler) (data : List UInt8) (st : SslStep) :
    ℤ × Handler :=
  let r := ({ h with bridge := h.bridge.writeClientHandshake data } : Handler).tlsHandshake st
  (if r.1 ≠ 0 then env.errCallbackFailure else 0, r.2)

/-- `handshake_completed` -/
def handshakeCompleted (env : Env) (h : Handler) (a : CryptoAnswers) : ℤ × Handler :=
  let r := setupCryptoContext a
  (if r.1 ≠ 0 then env.errCallbackFailure else 0, { h with calls := h.calls ++ r.2 })

/-- A failed tx key derivation (-1) with every other helper succeeding: `handshake_completed`
returns 0 to ngtcp2, and the connection has been given the key length -1. -/
theorem handshakeCompleted_misses_failed_derivation (env : Env) (h : Handler) :
    handshakeCompleted env h ⟨0, 0, 0, -1, 12, 0, 16, 12, 16⟩ =
      (0, { h with calls := h.calls ++
        [.updateTxKeys (-1) 12, .updateRxKeys 16 12, .setAeadOverhead 16] }) := by
  simp [handshakeCompleted, setupCryptoContext_installs_failed_keylen]

/-- A callback of ngtcp2 into a handler, with what the outside world answers during it. -/
inductive Callback where
  | sendServerCleartext (ppktNum : Bool) (tls : SslStep) (draw : Fin (int32Max + 1))
  | recvHandshakeData (data : List UInt8) (tls : SslStep)
  | handshakeCompleted (crypto : CryptoAnswers)
  deriving DecidableEq, Repr

namespace Handler

/-- The callback's return value to ngtcp2, and the handler after it. -/
def callback (env : Env) (h : Handler) : Callback → ℤ × Handler
  | .sendServerCleartext p st d =>
    let r := sendServerCleartext env h p st d
    (r.1.ret, r.2)
  | .recvHandshakeData data st => recvHandshakeData env h data st
  | .handshakeCompleted a => handshakeCompleted env h a

/-- The handler after ngtcp2 made a sequence of callbacks into it. -/
def callbacks (env : Env) (h : Handler) (cbs : List Callback) : Handler :=
  cbs.foldl (fun h cb => (callback env h cb).2) h

theorem frame_callback (env : Env) (h : Handler) (cb : Callback) :
    Frame h (callback env h cb).2 := by
  rcases cb with ⟨p, st, d⟩ | ⟨data, st⟩ | a
  · have hf := frame_tlsHandshake h st
    simp only [callback, sendServerCleartext]
    split
    · exact hf
    · split <;> exact ⟨hf.remoteAddr, hf.maxPktlen, hf.conn, hf.timer⟩
  · exact (⟨rfl, rfl, rfl, rfl⟩ : Frame h { h with bridge := h.bridge.writeClientHandshake data }).trans
      (frame_tlsHandshake _ st)
  · exact ⟨rfl, rfl, rfl, rfl⟩

theorem frame_callbacks (env : Env) (h : Handler) (cbs : List Callback) :
    Frame h (callbacks env h cbs) := by
  induction cbs generalizing h with
  | nil => exact Frame.refl h
  | cons cb cbs ih => exact (frame_callback env h cb).trans (ih _)

end Handler

/-- Whether a callback runs `tls_handshake`. -/
def Callback.runsTls : Callback → Bool
  | .sendServerCleartext .. | .recvHandshakeData .. => true
  | .handshakeCompleted _ => false

/-- Whether a callback's `SSL_do_handshake` reports the handshake complete. -/
def Callback.completes : Callback → Bool
  | .sendServerCleartext _ st _ | .recvHandshakeData _ st => decide (0 < st.rv)
  | .handshakeCompleted _ => false

/-- The bridge calls a callback makes, in order. -/
def Callback.bioCalls : Callback → List BioCall
  | .sendServerCleartext _ st _ => st.bio.map .bio ++ if st.ok then [.serverHandshake] else []
  | .recvHandshakeData data st => .clientHandshake data :: st.bio.map .bio
  | .handshakeCompleted _ => []

namespace Handler

theorem callback_calls_count (env : Env) (h : Handler) (cb : Callback) :
    (callback env h cb).2.calls.count .handshakeCompleted =
      h.calls.count .handshakeCompleted + if cb.completes then 1 else 0 := by
  rcases cb with ⟨p, st, d⟩ | ⟨data, st⟩ | a
  · simp only [callback, sendServerCleartext_snd, apply_ite Handler.calls, ite_self,
      tlsHandshake_calls, Callback.completes, decide_eq_true_eq]
    split <;> simp
  · simp only [callback, recvHandshakeData, tlsHandshake_calls, Callback.completes,
      decide_eq_true_eq]
    split <;> simp
  · simp [callback, handshakeCompleted, Callback.completes,
      List.count_eq_zero.2 (handshakeCompleted_not_mem_setupCryptoContext a)]

/-- `tls_handshake` has no guard of its own: ngtcp2 is told the handshake is complete once
per callback whose `SSL_do_handshake` reports completion. -/
theorem callbacks_calls_count (env : Env) (h : Handler) (cbs : List Callback) :
    (callbacks env h cbs).calls.count .handshakeCompleted =
      h.calls.count .handshakeCompleted + cbs.countP Callback.completes := by
  induction cbs generalizing h with
  | nil => simp [callbacks]
  | cons cb cbs ih =>
    have := ih (callback env h cb).2
    simp only [callbacks, List.foldl_cons] at this ⊢
    rw [this, callback_calls_count, List.countP_cons]
    omega

theorem callback_bridge (env : Env) (h : Handler) (cb : Callback) :
    (callback env h cb).2.bridge = cb.bioCalls.foldl Bridge.call h.bridge := by
  rcases cb with ⟨p, st, d⟩ | ⟨data, st⟩ | a
  · have hok := tlsHandshake_fst_eq_zero h st
    simp only [callback, sendServerCleartext_snd, Callback.bioCalls, List.foldl_append,
      ← tlsHandshake_bridge h st]
    by_cases hst : st.ok = true <;> simp [hok, hst, Bridge.call]
  · simp only [callback, recvHandshakeData, tlsHandshake_bridge, Callback.bioCalls,
      List.foldl_cons]
    rfl
  · rfl

/-- The handler's queues after any callbacks are those of a bridge run over the calls the
callbacks made, so every law of `Bio` holds of them. -/
theorem callbacks_bridge (env : Env) (h : Handler) (cbs : List Callback) :
    (callbacks env h cbs).bridge = (cbs.flatMap Callback.bioCalls).foldl Bridge.call h.bridge := by
  induction cbs generalizing h with
  | nil => rfl
  | cons cb cbs ih =>
    simp only [callbacks, List.foldl_cons, List.flatMap_cons, List.foldl_append] at ih ⊢
    rw [ih, callback_bridge]

end Handler

/-- An engine that keeps reporting "finished" once it has finished: every callback running
`SSL_do_handshake` after a completing one completes too. -/
def KeepsFinished (cbs : List Callback) : Prop :=
  cbs.Pairwise fun a b => a.completes → b.runsTls → b.completes

theorem countP_completes_of_keepsFinished {cbs : List Callback} (hk : KeepsFinished cbs) :
    cbs.countP Callback.completes =
      (cbs.dropWhile fun cb => !cb.completes).countP Callback.runsTls := by
  induction cbs with
  | nil => rfl
  | cons c cs ih =>
    rw [KeepsFinished, List.pairwise_cons] at hk
    by_cases hc : c.completes
    · have hr : c.runsTls := by cases c <;> simp_all [Callback.completes, Callback.runsTls]
      rw [List.dropWhile_cons_of_neg (by simpa using hc), List.countP_cons_of_pos _ _ hc,
        List.countP_cons_of_pos _ _ hr]
      congr 1
      refine List.countP_congr fun b hb => ⟨fun hbc => ?_, hk.1 b hb hc⟩
      cases b <;> simp_all [Callback.completes, Callback.runsTls]
    · rw [List.dropWhile_cons_of_pos (by simpa using hc), List.countP_cons_of_neg _ _ hc]
      exact ih hk.2

/-- Against an engine that keeps reporting "finished", ngtcp2 is told of completion once for
every callback that runs `SSL_do_handshake` from the first completing one on. -/
theorem tlsHandshake_completion_count (env : Env) (h : Handler) {cbs : List Callback}
    (hk : KeepsFinished cbs) :
    (Handler.callbacks env h cbs).calls.count .handshakeCompleted =
      h.calls.count .handshakeCompleted +
        (cbs.dropWhile fun cb => !cb.completes).countP Callback.runsTls := by
  rw [Handler.callbacks_calls_count, countP_completes_of_keepsFinished hk]

/-- Two `recv_handshake_data` callbacks after the handshake finished: two completions. -/
theorem tlsHandshake_completion_count_twice :
    KeepsFinished [.recvHandshakeData [] ⟨[], 1, .ssl⟩, .recvHandshakeData [] ⟨[], 1, .ssl⟩] ∧
    (Handler.callbacks ⟨1252, 1232, 2, 0xff000007, -1, fun _ => none,
        fun _ => (.unexpected, ⟨0, 0, 0⟩), .little⟩ Handler.new
      [.recvHandshakeData [] ⟨[], 1, .ssl⟩, .recvHandshakeData [] ⟨[], 1, .ssl⟩]).calls.count
        .handshakeCompleted = 0 + 2 := by
  have hk : KeepsFinished [.recvHandshakeData [] ⟨[], 1, .ssl⟩,
      .recvHandshakeData [] ⟨[], 1, .ssl⟩] := by
    simp [KeepsFinished, Callback.completes, Callback.runsTls]
  exact ⟨hk, tlsHandshake_completion_count _ _ hk⟩

/-- `tls_handshake` does not tell ngtcp2 at most once that the handshake completed: under an
engine that keeps reporting "finished", two `recv_handshake_data` callbacks each call
`ngtcp2_conn_handshake_completed`. -/
theorem tlsHandshake_completes_at_most_once_fails :
    ¬ ∀ (env : Env) (cbs : List Callback), KeepsFinished cbs →
      (Handler.callbacks env Handler.new cbs).calls.count .handshakeCompleted ≤ 1 := by
  intro hall
  have h2 := hall ⟨1252, 1232, 2, 0xff000007, -1, fun _ => none, fun _ => (.unexpected, ⟨0, 0, 0⟩), .little⟩
    [.recvHandshakeData [] ⟨[], 1, .ssl⟩, .recvHandshakeData [] ⟨[], 1, .ssl⟩]
    (by simp [KeepsFinished, Callback.completes, Callback.runsTls])
  rw [Handler.callbacks_calls_count] at h2
  simp [Callback.completes, Handler.new] at h2

end QuicServer
