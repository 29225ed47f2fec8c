import QuicServer.Handler

/-!
# A handler's packet I/O

`Handler::init` records the peer, picks the packet size limit of its address family, creates
the `ngtcp2_conn` and starts the idle timer. `Handler::on_read` feeds a datagram to ngtcp2 and
then drains it: `Handler::on_write` asks ngtcp2 for packets until it has none left and writes
each one to the peer. What ngtcp2 does inside each call, its callbacks into the handler and the
value it returns, is an input (`RecvScript`, `SendAnswer`), and so is what `sendto` returns.

The send buffer holds `NGTCP2_MAX_PKTLEN_IPV4` bytes, and ngtcp2 may fill all of it, whatever
`max_pktlen_` says.
-/
namespace QuicServer

/-- What ngtcp2 does inside one `ngtcp2_conn_recv`: its callbacks, and its result. -/
structure RecvScript where
  callbacks : List Callback
  rv : ℤ
  deriving DecidableEq, Repr

/-- One round of `on_write`'s loop: the callbacks ngtcp2 makes inside `ngtcp2_conn_send`, the
value it returns, and whether `sendto` then succeeds. -/
structure SendAnswer where
  callbacks : List Callback
  n : ℤ
  sendtoOk : Bool
  deriving DecidableEq, Repr

/-- The timeout `ev_timer_init` gives `timer_`, in milliseconds. -/
def idleTimeout : ℕ := 5000

/-- `max_pktlen_` as `Handler::init` picks it for an address family it accepts. -/
def familyMaxPktlen (env : Env) : Family → Option ℕ
  | .inet => some env.maxPktlenIpv4
  | .inet6 => some env.maxPktlenIpv6
  | .other _ => none

/-- Whether a drain ends well: ngtcp2 gets to "nothing more to send" without an error, and
every `sendto` before that succeeds. -/
def drainOk : List SendAnswer → Bool
  | [] => true
  | a :: rest => if a.n < 0 then false else if a.n = 0 then true else a.sendtoOk && drainOk rest

namespace Handler

/-- `Handler::init` at time `now`; `connId` is the id drawn for `ngtcp2_conn_server_new`, and
`serverNewRv` what that call returns. -/
def init (env : Env) (h : Handler) (now : ℕ) (sa : SockAddr) (connId : UInt64)
    (serverNewRv : ℤ) : ℤ × Handler :=
  let h := { h with remoteAddr := sa }
  match familyMaxPktlen env sa.family with
  | none => (-1, h)
  | some m =>
    let h := { h with maxPktlen := m }
    if serverNewRv ≠ 0 then (-1, h)
    else (0, { h with conn := some connId, timer := some (now + idleTimeout) })

/-- `Handler::~Handler`: stops the idle timer, then frees the connection and the TLS object. -/
def destroy (h : Handler) : Handler := { h with timer := none }

/-- `Handler::feed_data`: one `ngtcp2_conn_recv` of `datalen` bytes. -/
def feedData (env : Env) (h : Handler) (datalen : ℕ) (s : RecvScript) : ℤ × Handler :=
  (if s.rv ≠ 0 then -1 else 0,
    callbacks env { h with calls := h.calls ++ [.recv datalen] } s.callbacks)

/-- `Handler::on_write`: its result, the handler after it, and the datagrams it passed to
`sendto`. Each `ngtcp2_conn_send` may fill the whole `NGTCP2_MAX_PKTLEN_IPV4`-byte buffer; once
the answers run out, ngtcp2 returns 0. -/
def onWrite (env : Env) (h : Handler) : List SendAnswer → ℤ × Handler × List Sent
  | [] => (0, { h with calls := h.calls ++ [.send env.maxPktlenIpv4] }, [])
  | a :: rest =>
    let h := callbacks env { h with calls := h.calls ++ [.send env.maxPktlenIpv4] } a.callbacks
    if a.n < 0 then (-1, h, [])
    else if a.n = 0 then (0, h, [])
    else
      let sent : Sent := ⟨h.remoteAddr, .packet a.n.toNat⟩
      if !a.sendtoOk then (-1, h, [sent])
      else
        let r := onWrite env h rest
        (r.1, r.2.1, sent :: r.2.2)

/-- `Handler::on_read`: feed the datagram, then drain. -/
def onRead (env : Env) (h : Handler) (data : List UInt8) (s : RecvScript)
    (sends : List SendAnswer) : ℤ × Handler × List Sent :=
  let r := h.feedData env data.length s
  if r.1 ≠ 0 then (-1, r.2, []) else onWrite env r.2 sends

/-- Logging a call and then taking callbacks is a frame step. -/
theorem frame_log_callbacks (env : Env) (h : Handler) (calls : List ConnCall)
    (cbs : List Callback) : Frame h (callbacks env { h with calls := calls } cbs) :=
  (⟨rfl, rfl, rfl, rfl⟩ : Frame h { h with calls := calls }).trans (frame_callbacks env _ cbs)

/-- `on_write` fails exactly when ngtcp2 reports an error or a `sendto` fails: a write error
on the socket is as fatal to the session as an error of ngtcp2. -/
theorem onWrite_fst (env : Env) (h : Handler) (sends : List SendAnswer) :
    (h.onWrite env sends).1 = if drainOk sends then 0 else -1 := by
  induction sends generalizing h with
  | nil => rfl
  | cons a rest ih =>
    simp only [onWrite, drainOk]
    split_ifs <;> simp_all

theorem onRead_fst (env : Env) (h : Handler) (data : List UInt8) (s : RecvScript)
    (sends : List SendAnswer) :
    (h.onRead env data s sends).1 = if s.rv = 0 ∧ drainOk sends then 0 else -1 := by
  simp only [onRead, feedData]
  by_cases hr : s.rv = 0 <;> simp [hr, onWrite_fst]

theorem frame_feedData (env : Env) (h : Handler) (n : ℕ) (s : RecvScript) :
    Frame h (h.feedData env n s).2 :=
  frame_log_callbacks env h _ s.callbacks

theorem frame_onWrite (env : Env) (h : Handler) (sends : List SendAnswer) :
    Frame h (h.onWrite env sends).2.1 := by
  induction sends generalizing h with
  | nil => exact ⟨rfl, rfl, rfl, rfl⟩
  | cons a rest ih =>
    have hf := frame_log_callbacks env h (h.calls ++ [.send env.maxPktlenIpv4]) a.callbacks
    simp only [onWrite]
    split_ifs
    · exact hf
    · exact hf
    · exact hf
    · exact hf.trans (ih _)

theorem frame_onRead (env : Env) (h : Handler) (data : List UInt8) (s : RecvScript)
    (sends : List SendAnswer) : Frame h (h.onRead env data s sends).2.1 := by
  simp only [onRead]
  split
  · exact frame_feedData env h _ s
  · exact (frame_feedData env h _ s).trans (frame_onWrite env _ sends)

/-- Everything `on_write` writes is a packet to the handler's peer, at most as long as the
buffer it hands ngtcp2, provided ngtcp2 never writes past the length it is given. -/
theorem onWrite_sent (env : Env) (h : Handler) {sends : List SendAnswer}
    (hn : ∀ a ∈ sends, a.n ≤ env.maxPktlenIpv4) :
    ∀ x ∈ (h.onWrite env sends).2.2,
      x.addr = h.remoteAddr ∧ ∃ n, x.payload = .packet n ∧ n ≤ env.maxPktlenIpv4 := by
  induction sends generalizing h with
  | nil => simp [onWrite]
  | cons a rest ih =>
    have hf := frame_log_callbacks env h (h.calls ++ [.send env.maxPktlenIpv4]) a.callbacks
    have ha := hn a (List.mem_cons_self _ _)
    simp only [onWrite]
    split_ifs with h1 h2 h3
    · simp
    · simp
    · simp only [List.mem_singleton, forall_eq]
      exact ⟨hf.remoteAddr, _, rfl, by omega⟩
    · simp only [List.mem_cons, forall_eq_or_imp]
      refine ⟨⟨hf.remoteAddr, _, rfl, by omega⟩, fun x hx => ?_⟩
      obtain ⟨hx1, hx2⟩ := ih _ (fun b hb => hn b (List.mem_cons_of_mem _ hb)) x hx
      exact ⟨hx1.trans hf.remoteAddr, hx2⟩

/-- An IPv6 peer, ngtcp2's limits of 1252 bytes for IPv4 and 1232 for IPv6, and a first packet
that fills the buffer: `on_write` sends 1252 bytes to a peer whose `max_pktlen_` is 1232. -/
theorem onWrite_ipv6_exceeds_maxPktlen :
    let env : Env := ⟨1252, 1232, 2, 0xff000005, -502, fun _ => none,
      fun _ => (.unexpected, ⟨0, 0, 0⟩), .little⟩
    let sa : SockAddr := ⟨.inet6, [10, 0, 17, 81, 0, 0, 0, 0, 0, 0, 0, 0, 0, 0, 0, 0, 0, 0, 0, 0,
      0, 0, 0, 1, 0, 0, 0, 0]⟩
    let h := (Handler.new.init env 0 sa 7 0).2
    h.maxPktlen = 1232 ∧ (h.onWrite env [⟨[], 1252, true⟩]).2.2 = [⟨sa, .packet 1252⟩] := by
  decide

/-- A datagram `on_write` passes to `sendto` goes to the handler's peer and carries the bytes of
one positive `ngtcp2_conn_send`. -/
theorem mem_onWrite_sent {env : Env} {h : Handler} {sends : List SendAnswer} {x : Sent}
    (hx : x ∈ (h.onWrite env sends).2.2) :
    x.addr = h.remoteAddr ∧ ∃ a ∈ sends, 0 < a.n ∧ x.payload = .packet a.n.toNat := by
  induction sends generalizing h with
  | nil => simp [onWrite] at hx
  | cons a rest ih =>
    have hf := frame_log_callbacks env h (h.calls ++ [.send env.maxPktlenIpv4]) a.callbacks
    simp only [onWrite] at hx
    split_ifs at hx with h1 h2 h3
    · simp at hx
    · simp at hx
    · simp only [List.mem_singleton] at hx
      subst hx
      exact ⟨hf.remoteAddr, a, List.mem_cons_self _ _, by omega, rfl⟩
    · rcases List.mem_cons.1 hx with rfl | hx
      · exact ⟨hf.remoteAddr, a, List.mem_cons_self _ _, by omega, rfl⟩
      · obtain ⟨haddr, b, hb, hpos, hp⟩ := ih hx
        exact ⟨haddr.trans hf.remoteAddr, b, List.mem_cons_of_mem _ hb, hpos, hp⟩

theorem mem_onRead_sent {env : Env} {h : Handler} {data : List UInt8} {s : RecvScript}
    {sends : List SendAnswer} {x : Sent} (hx : x ∈ (h.onRead env data s sends).2.2) :
    x.addr = h.remoteAddr ∧ ∃ a ∈ sends, 0 < a.n ∧ x.payload = .packet a.n.toNat := by
  simp only [onRead] at hx
  split at hx
  · simp at hx
  · obtain ⟨haddr, hrest⟩ := mem_onWrite_sent hx
    exact ⟨haddr.trans (frame_feedData env h _ s).remoteAddr, hrest⟩

/-- `on_write` moves the queues only by the bridge calls of ngtcp2's callbacks. -/
theorem onWrite_bridge (env : Env) (h : Handler) (sends : List SendAnswer) :
    ∃ calls : List BioCall,
      (h.onWrite env sends).2.1.bridge = calls.foldl Bridge.call h.bridge := by
  induction sends generalizing h with
  | nil => exact ⟨[], rfl⟩
  | cons a rest ih =>
    have hb :=
      callbacks_bridge env { h with calls := h.calls ++ [.send env.maxPktlenIpv4] } a.callbacks
    simp only [onWrite]
    split_ifs
    · exact ⟨_, hb⟩
    · exact ⟨_, hb⟩
    · exact ⟨_, hb⟩
    · obtain ⟨calls, hc⟩ :=
        ih (callbacks env { h with calls := h.calls ++ [.send env.maxPktlenIpv4] } a.callbacks)
      exact ⟨_ ++ calls, by rw [hc, hb, List.foldl_append]⟩

theorem onRead_bridge (env : Env) (h : Handler) (data : List UInt8) (s : RecvScript)
    (sends : List SendAnswer) :
    ∃ calls : List BioCall,
      (h.onRead env data s sends).2.1.bridge = calls.foldl Bridge.call h.bridge := by
  have hb := callbacks_bridge env { h with calls := h.calls ++ [.recv data.length] } s.callbacks
  simp only [onRead]
  split
  · exact ⟨_, hb⟩
  · obtain ⟨calls, hc⟩ := onWrite_bridge env (h.feedData env data.length s).2 sends
    exact ⟨_ ++ calls, by rw [hc, List.foldl_append]; simp only [feedData]; rw [hb]⟩

end Handler

end QuicServer
