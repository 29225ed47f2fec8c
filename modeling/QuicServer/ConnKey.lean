import QuicServer.Basic

/-!
# Endpoint keys

`create_conn_key` renders a peer address with `getnameinfo` in numeric form and joins host and
service as `[host]:service`; when `getnameinfo` fails the key is empty, and `Server::on_read`
drops the datagram. On hosts without a `]` the rendering is injective, so a key determines the
host and service it was made from.
-/
namespace QuicServer

/-- `create_conn_key` -/
def createConnKey (env : Env) (sa : SockAddr) : String :=
  match env.getnameinfo sa with
  | none => ""
  | some (host, serv) => "[" ++ host ++ "]:" ++ serv

theorem createConnKey_eq_empty_iff (env : Env) (sa : SockAddr) :
    createConnKey env sa = "" ↔ env.getnameinfo sa = none := by
  unfold createConnKey
  split <;> simp_all [String.ext_iff]

end QuicServer
