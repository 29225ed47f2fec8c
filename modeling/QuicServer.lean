import QuicServer.Basic
import QuicServer.Bio
import QuicServer.CryptoContext
import QuicServer.Handler
import QuicServer.Session
import QuicServer.ConnKey
import QuicServer.VersionNegotiation
import QuicServer.Server
import QuicServer.Invariants
import QuicServer.Socket
