import QuicServer.Basic
import Mathlib.Tactic.IntervalCases

/-!
# Version negotiation

A datagram from an unknown peer whose version ngtcp2 does not support is answered with a
Version Negotiation packet that lists a reserved version and `NGTCP2_PROTO_VERSION`. The
reserved version is an FNV-1a hash, over 32 bits, of the peer's address bytes followed by the
client's version in network byte order, with the low nibble of every byte then forced to `a`.

The hash reads `htonl(version)` through a byte pointer, so what it sees depends on the host only
through `htonl`, and on either host it sees the big-endian bytes of the version. The final mask
puts every result in the reserved form `0x?a?a?a?a`, so it never coincides with a version of
another form; a client version of that form can coincide with it.
-/
namespace QuicServer

/-- The four bytes of a `uint32_t` as they lie in memory on a host of the given byte order. -/
def memBytes : Endian → UInt32 → List UInt8
  | .big, x => [(x >>> 24).toUInt8, (x >>> 16).toUInt8, (x >>> 8).toUInt8, x.toUInt8]
  | .little, x => [x.toUInt8, (x >>> 8).toUInt8, (x >>> 16).toUInt8, (x >>> 24).toUInt8]

/-- `htonl` -/
def htonl : Endian → UInt32 → UInt32
  | .big, x => x
  | .little, x =>
    ((x &&& 0xff) <<< 24) ||| ((x &&& 0xff00) <<< 8) ||| ((x >>> 8) &&& (0xff00 : UInt32)) |||
      (x >>> 24)

/-- One round of the hash: `h ^= b; h *= 0x01000193`, wrapping at 32 bits. -/
def fnv1a (h : UInt32) (b : UInt8) : UInt32 := (h ^^^ b.toUInt32) * 0x01000193

/-- `generate_reserved_vesrion`: the hash runs over the `salen` address bytes, then over the
bytes of `htonl(version)` as they lie in memory. -/
def generateReservedVesrion (order : Endian) (sa : SockAddr) (version : UInt32) : UInt32 :=
  let h := sa.bytes.foldl fnv1a 0x811C9DC5
  let h := (memBytes order (htonl order version)).foldl fnv1a h
  (h &&& 0xf0f0f0f0) ||| 0x0a0a0a0a

/-! ### `uint32_t` operations, bit by bit -/

theorem toBitVec_lor (a b : UInt32) : (a ||| b).toBitVec = a.toBitVec ||| b.toBitVec := rfl

theorem toBitVec_land (a b : UInt32) : (a &&& b).toBitVec = a.toBitVec &&& b.toBitVec := rfl

theorem toBitVec_shiftLeft (a b : UInt32) :
    (a <<< b).toBitVec = a.toBitVec <<< (b.toNat % 32) := by
  show a.toBitVec <<< (UInt32.mod b 32).toBitVec = _
  rw [BitVec.shiftLeft_eq']
  rfl

theorem toBitVec_shiftRight (a b : UInt32) :
    (a >>> b).toBitVec = a.toBitVec >>> (b.toNat % 32) := by
  show a.toBitVec >>> (UInt32.mod b 32).toBitVec = _
  rw [BitVec.ushiftRight_eq']
  rfl

theorem toBitVec_toUInt8 (a : UInt32) : a.toUInt8.toBitVec = a.toBitVec.setWidth 8 := by
  show BitVec.ofNat 8 a.toBitVec.toNat = _
  simp

/-- On either host, the bytes of `htonl(version)` in memory are the big-endian bytes of
`version`. -/
theorem memBytes_htonl (order : Endian) (v : UInt32) :
    memBytes order (htonl order v) = memBytes .big v := by
  cases order with
  | big => rfl
  | little =>
    simp only [memBytes, List.cons.injEq, and_true]
    refine ⟨?_, ?_, ?_, ?_⟩ <;> apply UInt8.eq_of_toBitVec_eq <;> ext ⟨i, hi⟩ <;>
      simp only [htonl, toBitVec_lor, toBitVec_land, toBitVec_shiftLeft, toBitVec_shiftRight,
        toBitVec_toUInt8, BitVec.getLsbD_setWidth, BitVec.getLsbD_or, BitVec.getLsbD_and,
        BitVec.getLsbD_shiftLeft, BitVec.getLsbD_ushiftRight, UInt32.reduceToNat,
        Nat.reduceMod] <;>
      interval_cases i <;>
      simp only [Nat.reduceAdd, Nat.reduceSub, Nat.reduceLT, Nat.reduceLeDiff, Nat.le_refl,
        decide_True, decide_False, BitVec.reduceGetLsb, BitVec.getLsbD_ge, UInt32.toBitVec_ofNat,
        Bool.and_false, Bool.and_self, Bool.and_true, Bool.false_and, Bool.false_or,
        Bool.not_false, Bool.not_true, Bool.or_false, Bool.or_self, Bool.true_and]

/-- `h &= 0xf0f0f0f0; h |= 0x0a0a0a0a` leaves `a` in the low nibble of every byte. -/
theorem reservedMask_lowNibbles (h : UInt32) :
    ((h &&& 0xf0f0f0f0) ||| 0x0a0a0a0a) &&& 0x0f0f0f0f = 0x0a0a0a0a := by
  apply UInt32.eq_of_toBitVec_eq
  ext ⟨i, hi⟩
  simp only [toBitVec_lor, toBitVec_land, BitVec.getLsbD_or, BitVec.getLsbD_and]
  generalize h.toBitVec.getLsbD i = b
  revert b hi
  revert i
  decide

theorem generateReservedVesrion_lowNibbles (order : Endian) (sa : SockAddr) (v : UInt32) :
    generateReservedVesrion order sa v &&& 0x0f0f0f0f = 0x0a0a0a0a :=
  reservedMask_lowNibbles _

/-- The reserved version differs from every version with a byte whose low nibble is not `a`. -/
theorem generateReservedVesrion_ne {w : UInt32} (hw : w &&& 0x0f0f0f0f ≠ 0x0a0a0a0a)
    (order : Endian) (sa : SockAddr) (v : UInt32) : generateReservedVesrion order sa v ≠ w :=
  fun h => hw (h ▸ generateReservedVesrion_lowNibbles order sa v)

/-- `generate_reserved_vesrion` is FNV-1a (`h ← (h xor b) * 0x01000193` from `0x811C9DC5`) over
the address bytes followed by the big-endian bytes of the version, masked into the reserved
form; the host's byte order plays no part. -/
theorem generateReservedVesrion_spec (order : Endian) (sa : SockAddr) (v : UInt32) :
    generateReservedVesrion order sa v =
        ((sa.bytes ++ [(v >>> 24).toUInt8, (v >>> 16).toUInt8, (v >>> 8).toUInt8, v.toUInt8]).foldl
            (fun h b => (h ^^^ b.toUInt32) * 0x01000193) 0x811C9DC5 &&& 0xf0f0f0f0) |||
          0x0a0a0a0a ∧
      generateReservedVesrion order sa v &&& 0x0f0f0f0f = 0x0a0a0a0a ∧
      ∀ w : UInt32, w &&& 0x0f0f0f0f ≠ 0x0a0a0a0a → generateReservedVesrion order sa v ≠ w := by
  refine ⟨?_, generateReservedVesrion_lowNibbles order sa v,
    fun w hw => generateReservedVesrion_ne hw order sa v⟩
  rw [generateReservedVesrion, memBytes_htonl, List.foldl_append]
  rfl

/-- What the calls inside `send_version_negotiation` return: `ngtcp2_upe_new`,
`ngtcp2_upe_encode_hd`, `ngtcp2_upe_encode_version_negotiation`, and whether `sendto`
succeeds. -/
structure VnAnswers where
  upeNew : ℤ
  encodeHd : ℤ
  encodeVersionNegotiation : ℤ
  sendtoOk : Bool
  deriving DecidableEq, Repr

/-- `Server::send_version_negotiation`: its result, and the datagram it passes to `sendto` if
it gets that far. The header echoes the client's connection id, packet number and version. -/
def sendVersionNegotiation (env : Env) (chd : PktHd) (sa : SockAddr) (a : VnAnswers) :
    ℤ × List Sent :=
  let hd : PktHd := ⟨chd.connId, chd.pktNum, chd.version⟩
  let sv := [generateReservedVesrion env.hostOrder sa hd.version, env.protoVersion]
  if a.upeNew ≠ 0 then (-1, []) else
  if a.encodeHd ≠ 0 then (-1, []) else
  if a.encodeVersionNegotiation ≠ 0 then (-1, []) else
  (if a.sendtoOk then 0 else -1, [⟨sa, .versionNegotiation hd sv⟩])

/-- The one datagram `send_version_negotiation` may write goes to the peer, echoes its header,
and lists the reserved version and `NGTCP2_PROTO_VERSION`. -/
theorem sendVersionNegotiation_sent (env : Env) (chd : PktHd) (sa : SockAddr) (a : VnAnswers) :
    ∀ x ∈ (sendVersionNegotiation env chd sa a).2, x = ⟨sa, .versionNegotiation chd
      [generateReservedVesrion env.hostOrder sa chd.version, env.protoVersion]⟩ := by
  unfold sendVersionNegotiation
  split_ifs <;> simp

end QuicServer
