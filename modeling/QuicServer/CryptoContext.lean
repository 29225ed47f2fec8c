import QuicServer.Basic

/-!
# Packet protection keys

`Handler::setup_crypto_context` runs when ngtcp2 reports the handshake complete. It asks the
crypto helpers for the negotiated PRF and AEAD, exports the server's traffic secret, derives a
key and an IV from it and installs them with `ngtcp2_conn_update_tx_keys`, does the same with
the client's secret for `ngtcp2_conn_update_rx_keys`, and sets the AEAD overhead. The helpers
belong to the TLS library, so what they return is an input (`CryptoAnswers`).

After each derivation the function tests `rv`, which still holds the preceding export's result:
a failed derivation goes unnoticed, its negative length is installed and the function returns 0.
-/
namespace QuicServer

/-- What the crypto helpers return during one `setup_crypto_context`, in call order. The
derivations return a length, negative on failure; the other helpers 0 on success. -/
structure CryptoAnswers where
  negotiatedPrf : ℤ
  negotiatedAead : ℤ
  exportServerSecret : ℤ
  txKeylen : ℤ
  txIvlen : ℤ
  exportClientSecret : ℤ
  rxKeylen : ℤ
  rxIvlen : ℤ
  aeadMaxOverhead : ℕ
  deriving DecidableEq, Repr

/-- `Handler::setup_crypto_context`: its return value and the calls it makes on the
connection, with every `if (rv != 0)` of the source in place. -/
def setupCryptoContext (a : CryptoAnswers) : ℤ × List ConnCall :=
  let rv := a.negotiatedPrf
  if rv ≠ 0 then (-1, []) else
  let rv := a.negotiatedAead
  if rv ≠ 0 then (-1, []) else
  let rv := a.exportServerSecret
  if rv ≠ 0 then (-1, []) else
  let keylen := a.txKeylen
  if rv ≠ 0 then (-1, []) else
  let ivlen := a.txIvlen
  if rv ≠ 0 then (-1, []) else
  let tx := ConnCall.updateTxKeys keylen ivlen
  let rv := a.exportClientSecret
  if rv ≠ 0 then (-1, [tx]) else
  let keylen := a.rxKeylen
  if rv ≠ 0 then (-1, [tx]) else
  let ivlen := a.rxIvlen
  if rv ≠ 0 then (-1, [tx]) else
  (0, [tx, .updateRxKeys keylen ivlen, .setAeadOverhead a.aeadMaxOverhead])

/-- What the function does check: it returns 0 exactly when the PRF and AEAD queries and both
secret exports succeed, and the derivations' results play no part in it. -/
theorem setupCryptoContext_eq_zero_iff (a : CryptoAnswers) :
    (setupCryptoContext a).1 = 0 ↔
      a.negotiatedPrf = 0 ∧ a.negotiatedAead = 0 ∧ a.exportServerSecret = 0 ∧
        a.exportClientSecret = 0 := by
  dsimp only [setupCryptoContext]
  split_ifs <;> simp_all

/-- On success it installs exactly the four derived lengths, as the helpers returned them. -/
theorem setupCryptoContext_calls {a : CryptoAnswers} (h : (setupCryptoContext a).1 = 0) :
    (setupCryptoContext a).2 = [.updateTxKeys a.txKeylen a.txIvlen,
      .updateRxKeys a.rxKeylen a.rxIvlen, .setAeadOverhead a.aeadMaxOverhead] := by
  obtain ⟨h1, h2, h3, h4⟩ := (setupCryptoContext_eq_zero_iff a).1 h
  simp [setupCryptoContext, h1, h2, h3, h4]

theorem handshakeCompleted_not_mem_setupCryptoContext (a : CryptoAnswers) :
    ConnCall.handshakeCompleted ∉ (setupCryptoContext a).2 := by
  dsimp only [setupCryptoContext]
  split_ifs <;> simp

/-- A failed tx key derivation (-1) with every other helper succeeding: the function returns 0
and installs the key length -1. -/
theorem setupCryptoContext_installs_failed_keylen :
    setupCryptoContext ⟨0, 0, 0, -1, 12, 0, 16, 12, 16⟩ =
      (0, [.updateTxKeys (-1) 12, .updateRxKeys 16 12, .setAeadOverhead 16]) := by
  decide

end QuicServer
