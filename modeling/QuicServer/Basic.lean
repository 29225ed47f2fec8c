import Mathlib.Data.List.Basic

/-!
# Addresses, ngtcp2 definitions and the server's outputs

`server.cc` relies on a few definitions it does not contain: the packet length limits, the
Client Initial packet type, the protocol version and the callback failure code of ngtcp2, and
the two pure functions it applies to every datagram, `getnameinfo` and `ngtcp2_accept`. They
are the fields of `Env`, with the host's byte order, so every result holds for all of their
values. A handler's calls into
its `ngtcp2_conn` are logged as `ConnCall`s, and every `sendto` on the shared socket as a `Sent`.
-/
namespace QuicServer

/-- `ss_family` of a peer address. -/
inductive Family where
  | inet
  | inet6
  | other (code : ℕ)
  deriving DecidableEq, Repr

/-- A peer address as `recvfrom` wrote it: its family and its `salen` raw bytes. -/
structure SockAddr where
  family : Family
  bytes : List UInt8
  deriving DecidableEq, Repr

/-- The fields of `ngtcp2_pkt_hd` that the version negotiation path reads. -/
structure PktHd where
  connId : UInt64
  pktNum : UInt64
  version : UInt32
  deriving DecidableEq, Repr

/-- The results `ngtcp2_accept` documents: 0, 1 (unsupported version) and -1. -/
inductive AcceptResult where
  | ok
  | versionNegotiation
  | unexpected
  deriving DecidableEq, Repr

/-- Byte order of the host. -/
inductive Endian where
  | little
  | big
  deriving DecidableEq, Repr

/-- What the server takes from ngtcp2's header, from the resolver and from the host. -/
structure Env where
  /-- `NGTCP2_MAX_PKTLEN_IPV4` -/
  maxPktlenIpv4 : ℕ
  /-- `NGTCP2_MAX_PKTLEN_IPV6` -/
  maxPktlenIpv6 : ℕ
  /-- `NGTCP2_PKT_CLIENT_INITIAL` -/
  pktClientInitial : UInt8
  /-- `NGTCP2_PROTO_VERSION` -/
  protoVersion : UInt32
  /-- `NGTCP2_ERR_CALLBACK_FAILURE` -/
  errCallbackFailure : ℤ
  /-- `getnameinfo` with `NI_NUMERICHOST | NI_NUMERICSERV`: host and service, or a failure. -/
  getnameinfo : SockAddr → Option (String × String)
  /-- `ngtcp2_accept(&hd, buf, nread)`: its result and the header it decoded. -/
  accept : List UInt8 → AcceptResult × PktHd
  /-- Byte order of the host, which `htonl` and a `uint32_t`'s bytes in memory follow. -/
  hostOrder : Endian

/-- A call a handler makes on its `ngtcp2_conn`. -/
inductive ConnCall where
  | recv (datalen : ℕ)
  | send (destlen : ℕ)
  | handshakeCompleted
  | updateTxKeys (keylen ivlen : ℤ)
  | updateRxKeys (keylen ivlen : ℤ)
  | setAeadOverhead (overhead : ℕ)
  deriving DecidableEq, Repr

/-- What a datagram on the socket carries: a packet ngtcp2 built (only its length is the
server's business), or a Version Negotiation packet with its header and version list. -/
inductive Payload where
  | packet (len : ℕ)
  | versionNegotiation (hd : PktHd) (sv : List UInt32)
  deriving DecidableEq, Repr

/-- One `sendto` on the shared socket. -/
structure Sent where
  addr : SockAddr
  payload : Payload
  deriving DecidableEq, Repr

end QuicServer
