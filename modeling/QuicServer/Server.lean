import QuicServer.Session
import QuicServer.ConnKey
import QuicServer.VersionNegotiation
import Mathlib.Data.List.AList

/-!
# The server

`Server` owns the socket and `handlers_`, a map from endpoint keys to handlers. A handler is
an object on the heap, owned by the table, but its idle timer deletes it directly and leaves
the table's entry in place. Every handler object ever created stays in `heap`, where its index
is its identity, and `freed` logs every `delete` of one, so an object deleted twice appears
twice. A call into a deleted object is recorded as a fault, and the model then carries on as
the code does, with the object's last state. The server is a state machine over the events of
its loop: a datagram read from the socket, a failed read, a timer expiry.
-/
namespace QuicServer

/-- A datagram as `recvfrom` delivered it into `buf`, with what the outside world answers while
`Server::on_read` handles it. -/
structure Datagram where
  addr : SockAddr
  data : List UInt8
  connId : UInt64
  serverNewRv : ℤ
  recv : RecvScript
  sends : List SendAnswer
  vn : VnAnswers
  deriving DecidableEq, Repr

/-- Undefined behaviour the server reaches: a call into a handler object that has been
deleted. -/
inductive Fault where
  | useAfterFree (id : ℕ)
  deriving DecidableEq, Repr

/-- `Server`: `handlers` maps a key to the index of its handler in `heap`; `freed` logs every
`delete` of a handler object, in order. -/
structure Server where
  handlers : AList fun _ : String => ℕ
  heap : List Handler
  freed : List ℕ
  sent : List Sent
  faults : List Fault

namespace Server

/-- `Server::Server` followed by `Server::init`. -/
def init : Server := ⟨∅, [], [], [], []⟩

/-- Whether `Server::on_read` refuses a datagram from an unknown peer as too short. -/
def tooShort (env : Env) (d : Datagram) : Bool :=
  match d.addr.family with
  | .inet => d.data.length < env.maxPktlenIpv4
  | .inet6 => d.data.length < env.maxPktlenIpv6
  | .other _ => false

/-- The way `Server::on_read` takes with a datagram. -/
inductive Route where
  | drop
  | versionNegotiation (hd : PktHd)
  | fresh (key : String)
  | existing (key : String) (id : ℕ)
  deriving DecidableEq, Repr

/-- The tests `Server::on_read` makes on a datagram from a peer not in the table. -/
def newPeer (env : Env) (key : String) (d : Datagram) : Route :=
  if tooShort env d then .drop else
  match env.accept d.data with
  | (.unexpected, _) => .drop
  | (.versionNegotiation, hd) => .versionNegotiation hd
  | (.ok, _) => if (d.data.headD 0 &&& 0x7f) ≠ env.pktClientInitial then .drop else .fresh key

/-- The tests of `Server::on_read`, in its order. -/
def route (env : Env) (s : Server) (d : Datagram) : Route :=
  let key := createConnKey env d.addr
  if key = "" then .drop else
  match s.handlers.lookup key with
  | some id => .existing key id
  | none => newPeer env key d

/-- The handler `Server::on_read` creates for a new peer, after `init`, whose result is not
looked at. -/
def spawn (env : Env) (now : ℕ) (d : Datagram) : Handler :=
  (Handler.new.init env now d.addr d.connId d.serverNewRv).2

/-- The faults of a call into handler object `id`: a use-after-free once it has been deleted. -/
def useFaults (s : Server) (id : ℕ) : List Fault :=
  if id ∈ s.freed then [.useAfterFree id] else []

@[simp] theorem mem_useFaults {s : Server} {id : ℕ} {f : Fault} :
    f ∈ s.useFaults id ↔ id ∈ s.freed ∧ f = .useAfterFree id := by
  unfold useFaults
  split_ifs <;> simp [*]

/-- `Server::on_read` at time `now`. A new handler that fails its first read goes out of scope
with its `unique_ptr`; the table's handler that fails is erased, which deletes it. The key is
new where the handler is inserted, so `AList.insert` acts as `std::map::insert` there. The
table's handler may be one its idle timer has deleted: `on_read` runs on it all the same, a
use-after-free, and when that read fails the erase deletes it a second time. -/
def onRead (env : Env) (s : Server) (now : ℕ) (d : Datagram) : Server :=
  match route env s d with
  | .drop => s
  | .versionNegotiation hd =>
    { s with sent := s.sent ++ (sendVersionNegotiation env hd d.addr d.vn).2 }
  | .fresh key =>
    let r := (spawn env now d).onRead env d.data d.recv d.sends
    if r.1 ≠ 0 then
      { s with heap := s.heap ++ [r.2.1.destroy], freed := s.freed ++ [s.heap.length],
               sent := s.sent ++ r.2.2 }
    else
      { s with handlers := s.handlers.insert key s.heap.length, heap := s.heap ++ [r.2.1],
               sent := s.sent ++ r.2.2 }
  | .existing key id =>
    match s.heap[id]? with
    | none => s
    | some h =>
      let r := h.onRead env d.data d.recv d.sends
      if r.1 ≠ 0 then
        { s with handlers := s.handlers.erase key, heap := s.heap.set id r.2.1.destroy,
                 freed := s.freed ++ [id], faults := s.faults ++ s.useFaults id,
                 sent := s.sent ++ r.2.2 }
      else
        { s with heap := s.heap.set id r.2.1, faults := s.faults ++ s.useFaults id,
                 sent := s.sent ++ r.2.2 }

/-- `timeoutcb`: `delete h`, which leaves the table's entry in place. -/
def timeoutcb (s : Server) (id : ℕ) (h : Handler) : Server :=
  { s with heap := s.heap.set id h.destroy, freed := s.freed ++ [id] }

/-- `Server::~Server`, run when `main` returns: destroying `handlers_` deletes every handler
object the table owns, a second time for one the idle timer has already deleted. -/
def destroy (s : Server) : Server :=
  { s with handlers := ∅, freed := s.freed ++ s.handlers.entries.map Sigma.snd }

/-- An event of the loop. -/
inductive Event where
  | read (now : ℕ) (d : Datagram)
  | readError
  | timeout (now : ℕ) (id : ℕ)
  deriving DecidableEq, Repr

/-- One event. A timer fires only while it is active and its deadline has come. -/
def step (env : Env) (s : Server) : Event → Server
  | .read now d => s.onRead env now d
  | .readError => s
  | .timeout now id =>
    match s.heap[id]? with
    | some h => if h.timer.any fun t => t ≤ now then s.timeoutcb id h else s
    | none => s

def run (env : Env) (s : Server) (evs : List Event) : Server := evs.foldl (step env) s

/-- ngtcp2's limits of the time, with a resolver and a packet parser that see one peer,
192.0.2.1 port 4433, sending Client Initials of a supported version. -/
def sampleEnv : Env := ⟨1252, 1232, 0x02, 0xff000005, -502,
  fun _ => some ("192.0.2.1", "4433"), fun _ => (.ok, ⟨1, 0, 0xff000005⟩), .little⟩

/-- A 1252-byte Client Initial from that peer, which ngtcp2 takes without error and answers
with one 1200-byte packet. -/
def samplePacket : Datagram :=
  ⟨⟨.inet, [2, 0, 17, 81, 192, 0, 2, 1, 0, 0, 0, 0, 0, 0, 0, 0]⟩, 0x82 :: List.replicate 1251 0,
    7, 0, ⟨[], 0⟩, [⟨[], 1200, true⟩], ⟨0, 0, 0, true⟩⟩

set_option maxRecDepth 20000 in
/-- The peer opens a session at 0 s and goes quiet; at 5 s the idle timer deletes the handler,
the table still maps the peer's key to it, and the peer's next datagram reaches the deleted
object. -/
theorem timeoutcb_leaves_table_entry :
    (init.run sampleEnv [.read 0 samplePacket, .timeout 5000 0]).handlers.lookup
      "[192.0.2.1]:4433" = some 0 ∧
    0 ∈ (init.run sampleEnv [.read 0 samplePacket, .timeout 5000 0]).freed ∧
    (init.run sampleEnv [.read 0 samplePacket, .timeout 5000 0, .read 6000 samplePacket]).faults =
      [.useAfterFree 0] := by
  decide

/-! ### What `route` decides -/

section Route

variable {env : Env} {s : Server} {d : Datagram}

theorem newPeer_ne_existing (key : String) (k : String) (id : ℕ) :
    newPeer env key d ≠ .existing k id := by
  rcases ha : env.accept d.data with ⟨_ | _ | _, hd⟩ <;> simp only [newPeer, ha] <;>
    split_ifs <;> simp

theorem newPeer_eq_fresh {key k : String} (h : newPeer env key d = .fresh k) :
    k = key ∧ tooShort env d = false ∧ (env.accept d.data).1 = .ok ∧
      (d.data.headD 0 &&& 0x7f) = env.pktClientInitial := by
  unfold newPeer at h
  split_ifs at h with hs hc <;> split at h <;> cases h
  rename_i ha
  exact ⟨rfl, by simpa using hs, by rw [ha], by simpa using hc⟩

theorem newPeer_eq_versionNegotiation {key : String} {hd : PktHd}
    (h : newPeer env key d = .versionNegotiation hd) :
    tooShort env d = false ∧ env.accept d.data = (.versionNegotiation, hd) := by
  unfold newPeer at h
  split_ifs at h with hs <;> split at h <;> cases h <;> exact ⟨by simpa using hs, by assumption⟩

/-- Too short, unparsable, or not a Client Initial: dropped. -/
theorem newPeer_eq_drop (key : String)
    (h : tooShort env d = true ∨ (env.accept d.data).1 = .unexpected ∨
      ((env.accept d.data).1 = .ok ∧ (d.data.headD 0 &&& 0x7f) ≠ env.pktClientInitial)) :
    newPeer env key d = .drop := by
  rcases ha : env.accept d.data with ⟨_ | _ | _, hd⟩ <;> rw [ha] at h <;>
    simp only [newPeer, ha] <;> split_ifs <;> simp_all

theorem route_of_lookup_some {id : ℕ} (hk : createConnKey env d.addr ≠ "")
    (hl : s.handlers.lookup (createConnKey env d.addr) = some id) :
    route env s d = .existing (createConnKey env d.addr) id := by
  simp [route, hk, hl]

theorem route_of_lookup_none (hl : s.handlers.lookup (createConnKey env d.addr) = none) :
    route env s d = if createConnKey env d.addr = "" then .drop
      else newPeer env (createConnKey env d.addr) d := by
  simp only [route, hl]

theorem route_eq_existing {k : String} {id : ℕ} (h : route env s d = .existing k id) :
    k = createConnKey env d.addr ∧ k ≠ "" ∧ s.handlers.lookup k = some id := by
  simp only [route] at h
  split_ifs at h with hk
  split at h
  · cases h; exact ⟨rfl, hk, ‹_›⟩
  · exact absurd h (newPeer_ne_existing _ _ _)

theorem route_eq_fresh {k : String} (h : route env s d = .fresh k) :
    k = createConnKey env d.addr ∧ k ≠ "" ∧ s.handlers.lookup k = none ∧
      tooShort env d = false ∧ (env.accept d.data).1 = .ok ∧
      (d.data.headD 0 &&& 0x7f) = env.pktClientInitial := by
  simp only [route] at h
  split_ifs at h with hk
  split at h
  · cases h
  · obtain ⟨rfl, hc⟩ := newPeer_eq_fresh h
    exact ⟨rfl, hk, ‹_›, hc⟩

theorem route_eq_versionNegotiation {hd : PktHd} (h : route env s d = .versionNegotiation hd) :
    s.handlers.lookup (createConnKey env d.addr) = none ∧ tooShort env d = false ∧
      env.accept d.data = (.versionNegotiation, hd) := by
  simp only [route] at h
  split_ifs at h with hk
  split at h
  · cases h
  · exact ⟨‹_›, newPeer_eq_versionNegotiation h⟩

theorem route_eq_drop (hnew : s.handlers.lookup (createConnKey env d.addr) = none)
    (h : tooShort env d = true ∨ (env.accept d.data).1 = .unexpected ∨
      ((env.accept d.data).1 = .ok ∧ (d.data.headD 0 &&& 0x7f) ≠ env.pktClientInitial)) :
    route env s d = .drop := by
  rw [route_of_lookup_none hnew]
  split_ifs
  · rfl
  · exact newPeer_eq_drop _ h

end Route

/-- The outcomes of `Server::on_read`, each with the tests that lead to it and the server it
leaves: the datagram is dropped; Version Negotiation is sent; a new handler fails or passes its
first read; the table's handler, deleted or not, fails or passes its read. -/
@[elab_as_elim]
theorem onRead_induction {env : Env} {s : Server} {now : ℕ} {d : Datagram}
    {motive : Server → Prop}
    (unchanged : motive s)
    (versionNegotiation : ∀ hd, route env s d = .versionNegotiation hd →
      motive { s with sent := s.sent ++ (sendVersionNegotiation env hd d.addr d.vn).2 })
    (firstReadFails : ∀ key, route env s d = .fresh key →
      let r := (spawn env now d).onRead env d.data d.recv d.sends
      r.1 ≠ 0 → motive { s with heap := s.heap ++ [r.2.1.destroy],
                                freed := s.freed ++ [s.heap.length], sent := s.sent ++ r.2.2 })
    (firstReadOk : ∀ key, route env s d = .fresh key →
      let r := (spawn env now d).onRead env d.data d.recv d.sends
      r.1 = 0 → motive { s with handlers := s.handlers.insert key s.heap.length,
                                heap := s.heap ++ [r.2.1], sent := s.sent ++ r.2.2 })
    (readFails : ∀ key id h, route env s d = .existing key id → s.heap[id]? = some h →
      let r := h.onRead env d.data d.recv d.sends
      r.1 ≠ 0 → motive { s with handlers := s.handlers.erase key,
                                heap := s.heap.set id r.2.1.destroy, freed := s.freed ++ [id],
                                faults := s.faults ++ s.useFaults id, sent := s.sent ++ r.2.2 })
    (readOk : ∀ key id h, route env s d = .existing key id → s.heap[id]? = some h →
      let r := h.onRead env d.data d.recv d.sends
      r.1 = 0 → motive { s with heap := s.heap.set id r.2.1,
                                faults := s.faults ++ s.useFaults id, sent := s.sent ++ r.2.2 }) :
    motive (s.onRead env now d) := by
  unfold onRead
  split
  · exact unchanged
  · exact versionNegotiation _ ‹_›
  · rename_i key hr
    dsimp only
    split_ifs with h0
    · exact firstReadFails key hr h0
    · exact firstReadOk key hr (not_not.1 h0)
  · rename_i key id hr
    split
    · exact unchanged
    · rename_i h hh
      dsimp only
      split_ifs with h0
      · exact readFails key id h hr hh h0
      · exact readOk key id h hr hh (not_not.1 h0)

theorem lookup_of_lookup_erase {t : AList fun _ : String => ℕ} {a k : String} {v : ℕ}
    (h : (t.erase a).lookup k = some v) : t.lookup k = some v := by
  by_cases hk : k = a
  · subst hk; simp [AList.lookup_erase] at h
  · rwa [AList.lookup_erase_ne hk] at h

theorem lookup_insert_eq_some {t : AList fun _ : String => ℕ} {a k : String} {v id : ℕ}
    (h : (t.insert a v).lookup k = some id) :
    (k = a ∧ id = v) ∨ (k ≠ a ∧ t.lookup k = some id) := by
  by_cases hk : k = a
  · subst hk; rw [AList.lookup_insert] at h; exact .inl ⟨rfl, (Option.some.inj h).symm⟩
  · rw [AList.lookup_insert_ne hk] at h; exact .inr ⟨hk, h⟩

theorem getElem?_append_singleton {α : Type} {l : List α} {x y : α} {j : ℕ}
    (h : (l ++ [x])[j]? = some y) : l[j]? = some y ∨ j = l.length ∧ y = x := by
  rcases Nat.lt_trichotomy j l.length with hj | rfl | hj
  · exact .inl (by rwa [List.getElem?_append_left hj] at h)
  · exact .inr ⟨rfl, by simpa using h.symm⟩
  · rw [List.getElem?_eq_none (by rw [List.length_append, List.length_singleton]; omega)] at h
    cases h

theorem getElem?_set_eq_some {α : Type} {l : List α} {i j : ℕ} {x y : α}
    (h : (l.set i x)[j]? = some y) : (i = j ∧ y = x) ∨ (i ≠ j ∧ l[j]? = some y) := by
  rw [List.getElem?_set] at h
  by_cases hij : i = j
  · rw [if_pos hij] at h
    split_ifs at h
    exact .inl ⟨hij, (Option.some.inj h).symm⟩
  · rw [if_neg hij] at h
    exact .inr ⟨hij, h⟩

/-! ### `on_read`, route by route -/

section OnRead

variable {env : Env} {s : Server} {now : ℕ} {d : Datagram}

theorem onRead_of_drop (h : route env s d = .drop) : s.onRead env now d = s := by
  simp [onRead, h]

theorem onRead_of_versionNegotiation {hd : PktHd} (h : route env s d = .versionNegotiation hd) :
    s.onRead env now d =
      { s with sent := s.sent ++ (sendVersionNegotiation env hd d.addr d.vn).2 } := by
  simp [onRead, h]

theorem onRead_heap_length_of_existing {k : String} {id : ℕ} (h : route env s d = .existing k id) :
    (s.onRead env now d).heap.length = s.heap.length := by
  refine onRead_induction rfl (fun _ _ => rfl) ?_ ?_ (fun _ _ _ _ _ _ => by simp)
    (fun _ _ _ _ _ _ => by simp)
  all_goals intro _ hr; simp [hr] at h

/-- What `on_read` sends: Version Negotiation on that route only, and otherwise the packets of
the handler it feeds. -/
theorem onRead_sent_payload (s : Server) (now : ℕ) (d : Datagram) :
    ∃ replies : List Sent, (s.onRead env now d).sent = s.sent ++ replies ∧
      ∀ x ∈ replies, (∃ n, x.payload = .packet n) ∨
        ∃ hd sv, route env s d = .versionNegotiation hd ∧
          x.payload = .versionNegotiation hd sv := by
  refine onRead_induction ⟨[], by simp, by simp⟩ (fun hd hr => ⟨_, rfl, fun x hx => .inr ?_⟩)
    ?_ ?_ ?_ ?_
  · rw [sendVersionNegotiation_sent env hd d.addr d.vn x hx]
    exact ⟨hd, _, hr, rfl⟩
  all_goals
    intros
    refine ⟨_, rfl, fun x hx => .inl ?_⟩
    obtain ⟨-, a, -, -, hp⟩ := Handler.mem_onRead_sent hx
    exact ⟨_, hp⟩

/-- `NGTCP2_MAX_PKTLEN_IPV4` and `NGTCP2_MAX_PKTLEN_IPV6` are the floors `on_read` applies. -/
theorem tooShort_eq {floor : ℕ} (hfam : familyMaxPktlen env d.addr.family = some floor) :
    tooShort env d = decide (d.data.length < floor) := by
  unfold tooShort
  split <;> simp_all [familyMaxPktlen]

end OnRead

/-- A datagram from an IPv4 or IPv6 peer, `floor` the limit of its family, and the datagrams
`on_read` sends for it. From a peer not in the table: a handler is inserted only for a Client
Initial of at least `floor` bytes that ngtcp2 accepts and whose first feed and drain succeed;
a Version Negotiation packet is sent only for a datagram of at least `floor` bytes whose version
ngtcp2 does not support; and a short, unparsable or non-Initial datagram leaves the server as
it was, sending nothing. From a peer in the table, no handler is created and no Version
Negotiation packet is sent. -/
theorem onRead_admission (env : Env) (s : Server) (now : ℕ) (d : Datagram) {floor : ℕ}
    (hfam : familyMaxPktlen env d.addr.family = some floor) :
    ∃ replies : List Sent, (s.onRead env now d).sent = s.sent ++ replies ∧
    (s.handlers.lookup (createConnKey env d.addr) = none →
      (((s.onRead env now d).handlers.lookup (createConnKey env d.addr)).isSome →
        floor ≤ d.data.length ∧ (env.accept d.data).1 = .ok ∧
        (d.data.headD 0 &&& 0x7f) = env.pktClientInitial ∧
        ((spawn env now d).onRead env d.data d.recv d.sends).1 = 0) ∧
      (∀ x ∈ replies, ∀ hd sv, x.payload = .versionNegotiation hd sv →
        floor ≤ d.data.length ∧ (env.accept d.data).1 = .versionNegotiation) ∧
      (d.data.length < floor ∨ (env.accept d.data).1 = .unexpected ∨
        ((env.accept d.data).1 = .ok ∧ (d.data.headD 0 &&& 0x7f) ≠ env.pktClientInitial) →
        s.onRead env now d = s)) ∧
    (∀ id, s.handlers.lookup (createConnKey env d.addr) = some id →
      (s.onRead env now d).heap.length = s.heap.length ∧
      ∀ x ∈ replies, ∀ hd sv, x.payload ≠ .versionNegotiation hd sv) := by
  have hshort := tooShort_eq hfam
  obtain ⟨replies, hsent, hpay⟩ := onRead_sent_payload s now d
  refine ⟨replies, hsent, fun hnew => ⟨fun hin => ?_, fun x hx hd sv hv => ?_, fun hc => ?_⟩,
    fun id hl => ?_⟩
  · cases hr : route env s d with
    | drop => simp [onRead_of_drop hr, hnew] at hin
    | versionNegotiation hd => simp [onRead_of_versionNegotiation hr, hnew] at hin
    | fresh k =>
      obtain ⟨rfl, -, -, hs, ha, hc⟩ := route_eq_fresh hr
      simp only [onRead, hr] at hin
      split_ifs at hin with h0
      · simp [hnew] at hin
      · exact ⟨by simpa [hshort] using hs, ha, hc, by simpa using h0⟩
    | existing k id =>
      obtain ⟨rfl, -, hl⟩ := route_eq_existing hr
      simp [hnew] at hl
  · rcases hpay x hx with ⟨n, hn⟩ | ⟨hd', sv', hr, -⟩
    · rw [hn] at hv; cases hv
    · obtain ⟨-, hs, ha⟩ := route_eq_versionNegotiation hr
      exact ⟨by simpa [hshort] using hs, by rw [ha]⟩
  · refine onRead_of_drop (route_eq_drop hnew ?_)
    rcases hc with hc | hc
    · exact .inl (by simpa [hshort] using hc)
    · exact .inr hc
  · refine ⟨?_, fun x hx hd sv hv => ?_⟩
    · by_cases hk : createConnKey env d.addr = ""
      · rw [onRead_of_drop (by simp [route, hk])]
      · exact onRead_heap_length_of_existing (route_of_lookup_some hk hl)
    · rcases hpay x hx with ⟨n, hn⟩ | ⟨hd', sv', hr, -⟩
      · rw [hn] at hv; cases hv
      · simp [(route_eq_versionNegotiation hr).1] at hl

/-- The floor and the admission laws at the sample peer's first datagram. -/
theorem onRead_admission_sample :
    familyMaxPktlen sampleEnv samplePacket.addr.family = some 1252 ∧
    ∃ replies : List Sent, (init.onRead sampleEnv 0 samplePacket).sent = init.sent ++ replies ∧
    (init.handlers.lookup (createConnKey sampleEnv samplePacket.addr) = none →
      (((init.onRead sampleEnv 0 samplePacket).handlers.lookup
          (createConnKey sampleEnv samplePacket.addr)).isSome →
        1252 ≤ samplePacket.data.length ∧ (sampleEnv.accept samplePacket.data).1 = .ok ∧
        (samplePacket.data.headD 0 &&& 0x7f) = sampleEnv.pktClientInitial ∧
        ((spawn sampleEnv 0 samplePacket).onRead sampleEnv samplePacket.data samplePacket.recv
          samplePacket.sends).1 = 0) ∧
      (∀ x ∈ replies, ∀ hd sv, x.payload = .versionNegotiation hd sv →
        1252 ≤ samplePacket.data.length ∧
          (sampleEnv.accept samplePacket.data).1 = .versionNegotiation) ∧
      (samplePacket.data.length < 1252 ∨ (sampleEnv.accept samplePacket.data).1 = .unexpected ∨
        ((sampleEnv.accept samplePacket.data).1 = .ok ∧
          (samplePacket.data.headD 0 &&& 0x7f) ≠ sampleEnv.pktClientInitial) →
        init.onRead sampleEnv 0 samplePacket = init)) ∧
    (∀ id, init.handlers.lookup (createConnKey sampleEnv samplePacket.addr) = some id →
      (init.onRead sampleEnv 0 samplePacket).heap.length = init.heap.length ∧
      ∀ x ∈ replies, ∀ hd sv, x.payload ≠ .versionNegotiation hd sv) :=
  ⟨rfl, onRead_admission sampleEnv init 0 samplePacket rfl⟩

set_option maxRecDepth 20000 in
/-- `ngtcp2_conn_server_new` fails (`NGTCP2_ERR_NOMEM`) on a new peer's Client Initial: `init`
returns -1 with `conn_` null, and `on_read` feeds the datagram to that handler anyway, whose
first call is `ngtcp2_conn_recv`. -/
theorem onRead_feeds_handler_after_failed_init :
    (Handler.new.init sampleEnv 0 samplePacket.addr 7 (-501)).1 = -1 ∧
    (init.onRead sampleEnv 0 { samplePacket with serverNewRv := -501 }).heap.map
      (fun h => (h.conn, h.calls.head?)) = [(none, some (.recv 1252))] := by
  decide

/-! ### Handler objects from one state to a later one

No step takes a handler object out of the heap: `on_read` appends new ones and puts in an old
one's place its state after `Handler::on_read`, and `timeoutcb` and an erase put there its
destroyed state. A relation that every such change respects therefore holds between each object
and what it is after any run. -/

/-- Every handler object of `heap` is still in `heap'`, related to its old state by `R`. -/
def HeapFrame (R : Handler → Handler → Prop) (heap heap' : List Handler) : Prop :=
  ∀ (id : ℕ) (h : Handler), heap[id]? = some h → ∃ h' : Handler, heap'[id]? = some h' ∧ R h h'

/-- A relation between a handler's state and a later one that holds across `Handler::on_read`
and across `~Handler`, and composes. -/
structure HandlerStable (R : Handler → Handler → Prop) : Prop where
  frame : ∀ {h h' : Handler}, Handler.Frame h h' → R h h'
  destroy : ∀ {h h' : Handler}, R h h' → R h h'.destroy
  trans : ∀ {h₁ h₂ h₃ : Handler}, R h₁ h₂ → R h₂ h₃ → R h₁ h₃

section HeapFrame

variable {R : Handler → Handler → Prop}

theorem HandlerStable.refl (hR : HandlerStable R) (h : Handler) : R h h :=
  hR.frame (Handler.Frame.refl h)

theorem heapFrame_refl (hR : HandlerStable R) (heap : List Handler) : HeapFrame R heap heap :=
  fun _ h hh => ⟨h, hh, hR.refl h⟩

theorem HeapFrame.trans (hR : HandlerStable R) {heap₁ heap₂ heap₃ : List Handler}
    (h₁₂ : HeapFrame R heap₁ heap₂) (h₂₃ : HeapFrame R heap₂ heap₃) :
    HeapFrame R heap₁ heap₃ := fun id h hh => by
  obtain ⟨h', hh', hr⟩ := h₁₂ id h hh
  obtain ⟨h'', hh'', hr'⟩ := h₂₃ id h' hh'
  exact ⟨h'', hh'', hR.trans hr hr'⟩

theorem heapFrame_append (hR : HandlerStable R) (heap hs : List Handler) :
    HeapFrame R heap (heap ++ hs) :=
  fun id h hh => ⟨h, by rw [List.getElem?_append_left (List.getElem?_eq_some_iff.1 hh).1, hh],
    hR.refl h⟩

theorem heapFrame_set (hR : HandlerStable R) {heap : List Handler} {id : ℕ} {h h' : Handler}
    (hh : heap[id]? = some h) (hr : R h h') : HeapFrame R heap (heap.set id h') :=
    fun j g hg => by
  by_cases hj : id = j
  · subst hj
    rw [hh] at hg
    cases hg
    exact ⟨h', by simp [(List.getElem?_eq_some_iff.1 hh).1], hr⟩
  · exact ⟨g, by rw [List.getElem?_set_ne hj, hg], hR.refl g⟩

theorem onRead_heapFrame (hR : HandlerStable R) (env : Env) (s : Server) (now : ℕ) (d : Datagram) :
    HeapFrame R s.heap (s.onRead env now d).heap := by
  refine onRead_induction (heapFrame_refl hR _) (fun _ _ => heapFrame_refl hR _)
    (fun _ _ _ => heapFrame_append hR _ _) (fun _ _ _ => heapFrame_append hR _ _) ?_ ?_
  · intro _ _ h _ hh _ _
    exact heapFrame_set hR hh (hR.destroy (hR.frame (Handler.frame_onRead env h _ _ _)))
  · intro _ _ h _ hh _ _
    exact heapFrame_set hR hh (hR.frame (Handler.frame_onRead env h _ _ _))

end HeapFrame

/-- Every key of the table names a handler object in the heap whose peer renders to that key. -/
def KeysMatch (env : Env) (s : Server) : Prop :=
  ∀ (k : String) (id : ℕ), s.handlers.lookup k = some id →
    ∃ h : Handler, s.heap[id]? = some h ∧ createConnKey env h.remoteAddr = k

/-- Every handler object keeps its peer from one heap to the next. -/
def PeersKept : List Handler → List Handler → Prop :=
  HeapFrame fun h h' => h'.remoteAddr = h.remoteAddr

theorem remoteAddr_stable : HandlerStable fun h h' => h'.remoteAddr = h.remoteAddr :=
  ⟨fun hf => hf.remoteAddr, fun hr => hr, fun h₁₂ h₂₃ => h₂₃.trans h₁₂⟩

variable {env : Env}

theorem keysMatch_init : KeysMatch env init := fun k id h => by simp [init] at h

theorem keysMatch_of_peersKept {s s' : Server} (hs : KeysMatch env s)
    (hp : PeersKept s.heap s'.heap)
    (ht : ∀ k id, s'.handlers.lookup k = some id → s.handlers.lookup k = some id) :
    KeysMatch env s' := fun k id hl => by
  obtain ⟨h, hh, hk⟩ := hs k id (ht k id hl)
  obtain ⟨h', hh', hr⟩ := hp id h hh
  exact ⟨h', hh', by rw [hr, hk]⟩

theorem spawn_remoteAddr (env : Env) (now : ℕ) (d : Datagram) :
    (spawn env now d).remoteAddr = d.addr := by
  unfold spawn Handler.init
  split
  · rfl
  · split_ifs <;> rfl

/-- A key `on_read` leaves in the table was there before with the same handler, or it is the
datagram's own key, given to a new handler of that peer. -/
theorem onRead_lookup {s : Server} {now : ℕ} {d : Datagram} {k : String} {id : ℕ}
    (hl : (s.onRead env now d).handlers.lookup k = some id) :
    s.handlers.lookup k = some id ∨
      ∃ h : Handler, (s.onRead env now d).heap[id]? = some h ∧ h.remoteAddr = d.addr ∧
        k = createConnKey env d.addr := by
  revert hl
  refine onRead_induction .inl (fun _ _ => .inl) (fun _ _ _ => .inl) ?_
    (fun _ _ _ _ _ _ hl => .inl (lookup_of_lookup_erase hl)) (fun _ _ _ _ _ _ => .inl)
  intro key hr _ _ hl
  obtain ⟨rfl, -⟩ := route_eq_fresh hr
  rcases lookup_insert_eq_some hl with ⟨rfl, rfl⟩ | ⟨-, hl⟩
  · refine .inr ⟨_, List.getElem?_concat_length _ _, ?_, rfl⟩
    rw [(Handler.frame_onRead env _ d.data d.recv d.sends).remoteAddr, spawn_remoteAddr]
  · exact .inl hl

theorem keysMatch_onRead {s : Server} (hs : KeysMatch env s) (now : ℕ) (d : Datagram) :
    KeysMatch env (s.onRead env now d) := fun k id hl => by
  rcases onRead_lookup hl with hl | ⟨h, hh, hr, rfl⟩
  · obtain ⟨h, hh, hk⟩ := hs k id hl
    obtain ⟨h', hh', hr⟩ := onRead_heapFrame remoteAddr_stable env s now d id h hh
    exact ⟨h', hh', by rw [hr, hk]⟩
  · exact ⟨h, hh, by rw [hr]⟩

theorem keysMatch_step {s : Server} (hs : KeysMatch env s) (e : Event) :
    KeysMatch env (s.step env e) := by
  cases e with
  | read now d => exact keysMatch_onRead hs now d
  | readError => exact hs
  | timeout now id =>
    simp only [step]
    split
    · rename_i h hh
      split_ifs
      · exact keysMatch_of_peersKept hs (heapFrame_set remoteAddr_stable hh rfl) fun _ _ hl => hl
      · exact hs
    · exact hs

/-- The sample server with a resolver that tells the sample peer 192.0.2.1 from a second peer,
192.0.2.2, by the last byte of the IPv4 address; both are at port 4433. -/
def twoPeerEnv : Env :=
  { sampleEnv with
    getnameinfo := fun sa =>
      some (if sa.bytes.get? 7 = some 1 then "192.0.2.1" else "192.0.2.2", "4433") }

/-- The second peer's Client Initial, otherwise the sample one. -/
def secondPacket : Datagram :=
  { samplePacket with addr := ⟨.inet, [2, 0, 17, 81, 192, 0, 2, 2, 0, 0, 0, 0, 0, 0, 0, 0]⟩ }

/-- After `on_read`, the datagram's key is in the table exactly when its session was there, or
the datagram opens one, and ngtcp2 accepted it and the drain ended with every `sendto`
succeeding. A failed `sendto` is as fatal as an error of ngtcp2. The key's handler, if any, is
assumed not yet deleted. -/
theorem onRead_table_iff (s : Server) (now : ℕ) (d : Datagram)
    (hk : createConnKey env d.addr ≠ "")
    (hlive : ∀ id, s.handlers.lookup (createConnKey env d.addr) = some id →
      id ∉ s.freed ∧ s.heap[id]?.isSome) :
    ((s.onRead env now d).handlers.lookup (createConnKey env d.addr)).isSome ↔
      ((s.handlers.lookup (createConnKey env d.addr)).isSome ∨
        route env s d = .fresh (createConnKey env d.addr)) ∧
      d.recv.rv = 0 ∧ drainOk d.sends = true := by
  cases hl : s.handlers.lookup (createConnKey env d.addr) with
  | some id =>
    obtain ⟨hfree, hheap⟩ := hlive id hl
    obtain ⟨h, hh⟩ := Option.isSome_iff_exists.1 hheap
    have hr := route_of_lookup_some hk hl
    simp only [onRead, hr, hfree, if_false, hh, Handler.onRead_fst]
    split_ifs with h0 <;> simp_all [AList.lookup_erase]
  | none =>
    cases hr : route env s d with
    | drop => simp [onRead_of_drop hr, hl]
    | versionNegotiation hd => simp [onRead_of_versionNegotiation hr, hl]
    | fresh k =>
      obtain ⟨rfl, -⟩ := route_eq_fresh hr
      simp only [onRead, hr, Handler.onRead_fst]
      split_ifs with h0 <;> simp_all [AList.lookup_insert]
    | existing k id =>
      obtain ⟨rfl, -, hl'⟩ := route_eq_existing hr
      simp [hl] at hl'

set_option maxRecDepth 20000 in
/-- The sample peer's session, and its next datagram: if `sendto` succeeds the session stays,
if it fails the session is erased. -/
theorem onRead_table_iff_sample :
    let s := init.run sampleEnv [.read 0 samplePacket]
    let d := { samplePacket with sends := [⟨[], 1200, false⟩] }
    createConnKey sampleEnv d.addr ≠ "" ∧
    (∀ id, s.handlers.lookup (createConnKey sampleEnv d.addr) = some id →
      id ∉ s.freed ∧ s.heap[id]?.isSome) ∧
    (((s.onRead sampleEnv 1 d).handlers.lookup (createConnKey sampleEnv d.addr)).isSome ↔
      ((s.handlers.lookup (createConnKey sampleEnv d.addr)).isSome ∨
        route sampleEnv s d = .fresh (createConnKey sampleEnv d.addr)) ∧
      d.recv.rv = 0 ∧ drainOk d.sends = true) := by
  intro s d
  have hk : createConnKey sampleEnv d.addr ≠ "" := by decide
  have hlive : ∀ id, s.handlers.lookup (createConnKey sampleEnv d.addr) = some id →
      id ∉ s.freed ∧ s.heap[id]?.isSome := by
    intro id hl
    have h0 : s.handlers.lookup (createConnKey sampleEnv d.addr) = some 0 := by decide
    rw [h0] at hl
    cases hl
    decide
  exact ⟨hk, hlive, onRead_table_iff s 1 d hk hlive⟩

set_option maxRecDepth 20000 in
/-- Two runs that differ only in whether one `sendto` succeeds end with different tables. -/
theorem onRead_sendto_failure_evicts :
    (init.run sampleEnv [.read 0 samplePacket, .read 1 samplePacket]).handlers.lookup
      "[192.0.2.1]:4433" = some 0 ∧
    (init.run sampleEnv [.read 0 samplePacket,
      .read 1 { samplePacket with sends := [⟨[], 1200, false⟩] }]).handlers.lookup
      "[192.0.2.1]:4433" = none := by
  decide

end Server

end QuicServer
