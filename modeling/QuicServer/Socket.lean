import Mathlib.Data.List.Basic

/-!
# The listening socket

`create_sock` walks `getaddrinfo`'s list: for each entry it opens a socket, binds it, and
closes it again when `bind` fails, until one binds. It then sets `SO_REUSEADDR` on that socket.
What the library calls return is an input: the descriptor `socket` gives, whether `bind`
succeeds, and whether `setsockopt` does.

The socket bound is that of the first entry whose `socket` and `bind` both succeed, and every
other socket the loop opened is closed by the time it returns. When `setsockopt` fails,
`create_sock` returns -1 without closing the bound socket, which stays open.
-/
namespace QuicServer

/-- One entry of `getaddrinfo`'s list, with what the calls on it return: the descriptor
`socket` gives (-1 when it fails) and whether `bind` succeeds. -/
structure AddrTry where
  fd : ℤ
  bindOk : Bool
  deriving DecidableEq, Repr

/-- A call of `create_sock` that opens or closes a descriptor. -/
inductive FdOp where
  | socket (fd : ℤ)
  | close (fd : ℤ)
  deriving DecidableEq, Repr

/-- The descriptors open after one call, from those open before. -/
def FdOp.apply (fds : List ℤ) : FdOp → List ℤ
  | .socket fd => fd :: fds
  | .close fd => fds.erase fd

/-- The loop of `create_sock`: the descriptor of the entry that binds, if one does, and the
`socket` and `close` calls made on the way. -/
def bindLoop : List AddrTry → Option ℤ × List FdOp
  | [] => (none, [])
  | a :: rest =>
    if a.fd = -1 then bindLoop rest
    else if a.bindOk then (some a.fd, [.socket a.fd])
    else
      let r := bindLoop rest
      (r.1, .socket a.fd :: .close a.fd :: r.2)

/-- `create_sock`: `gai` is `getaddrinfo`'s list, `none` when it fails, and `setsockoptOk`
whether `setsockopt(SO_REUSEADDR)` succeeds. The result, and the descriptor calls made. -/
def createSock (gai : Option (List AddrTry)) (setsockoptOk : Bool) : ℤ × List FdOp :=
  match gai with
  | none => (-1, [])
  | some res =>
    let r := bindLoop res
    match r.1 with
    | none => (-1, r.2)
    | some fd => (if setsockoptOk then fd else -1, r.2)

/-- The entry a listening socket should come from: the first whose `socket` and `bind` both
succeed. -/
def boundTry (res : List AddrTry) : Option AddrTry :=
  res.find? fun a => decide (a.fd ≠ -1) && a.bindOk

theorem bindLoop_fst (res : List AddrTry) : (bindLoop res).1 = (boundTry res).map AddrTry.fd := by
  induction res with
  | nil => rfl
  | cons a rest ih =>
    simp only [bindLoop, boundTry, List.find?_cons] at ih ⊢
    by_cases hfd : a.fd = -1
    · simp [hfd, ih]
    · cases hb : a.bindOk <;> simp [hfd, hb, ih]

/-- A socket the loop opens and does not bind is closed right away, so the loop leaves open
exactly the descriptor it binds. -/
theorem bindLoop_fds (res : List AddrTry) (fds : List ℤ) :
    (bindLoop res).2.foldl FdOp.apply fds = (bindLoop res).1.toList ++ fds := by
  induction res generalizing fds with
  | nil => rfl
  | cons a rest ih =>
    simp only [bindLoop]
    split_ifs
    · exact ih fds
    · rfl
    · simp only [List.foldl_cons, FdOp.apply, List.erase_cons_head]
      exact ih fds

/-- `create_sock` returns the descriptor of the first entry whose `socket` and `bind` succeed,
and every other socket it opened is closed. When `setsockopt` fails it returns -1, and the
bound socket stays open. -/
theorem createSock_spec (gai : Option (List AddrTry)) (setsockoptOk : Bool) :
    (createSock gai setsockoptOk).2.foldl FdOp.apply [] =
        ((gai.bind boundTry).map AddrTry.fd).toList ∧
      (createSock gai setsockoptOk).1 =
        if setsockoptOk then ((gai.bind boundTry).map AddrTry.fd).getD (-1) else -1 := by
  cases gai with
  | none => simp [createSock]
  | some res =>
    have hfds := bindLoop_fds res []
    rw [bindLoop_fst] at hfds
    simp only [createSock, Option.bind_some, bindLoop_fst]
    rcases hb : boundTry res with _ | a <;> cases setsockoptOk <;> simp_all

end QuicServer
