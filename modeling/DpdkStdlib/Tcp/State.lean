import DpdkStdlib.Net

/-!
# Connection states and errors (`state.rs`, `error.rs`)

Both address families occur: the codec refuses IPv6, so a connection over it exists in the engine but puts no frame on
the wire.
-/

namespace DpdkStdlib.Tcp

inductive TcpState
  | closed | listen | synSent | synReceived | established | finWait1 | finWait2 | closeWait | closing | lastAck
  | timeWait
deriving DecidableEq

structure FourTuple where
  localAddr : SocketAddr
  remoteAddr : SocketAddr
deriving DecidableEq

inductive TcpError
  | connectionRefused | connectionReset | connectionAborted | brokenPipe | notConnected | timedOut | addrInUse
  | addrNotAvailable
  | invalidPacket (msg : String)
  | resourceLimit (msg : String)
deriving DecidableEq

end DpdkStdlib.Tcp
