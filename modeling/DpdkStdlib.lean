import DpdkStdlib.Mmap.Layout
import DpdkStdlib.Mmap.Receive
import DpdkStdlib.Quic.EventLoop
import DpdkStdlib.Tcp.Accepted
import DpdkStdlib.Tcp.Answer
import DpdkStdlib.Tcp.Backlog
import DpdkStdlib.Tcp.Blocking
import DpdkStdlib.Tcp.Connect
import DpdkStdlib.Tcp.Duplicate
import DpdkStdlib.Tcp.Finish
import DpdkStdlib.Tcp.Overlap
import DpdkStdlib.Tcp.Owners
import DpdkStdlib.Tcp.Packet
import DpdkStdlib.Tcp.Persist
import DpdkStdlib.Tcp.Probe
import DpdkStdlib.Tcp.Recovery
import DpdkStdlib.Tcp.Reset
import DpdkStdlib.Tcp.Retry
import DpdkStdlib.Tcp.Scale
import DpdkStdlib.Tcp.Station
import DpdkStdlib.Tcp.Timer
import DpdkStdlib.Tcp.Wakeup
import DpdkStdlib.Udp.Echo
import DpdkStdlib.Udp.Filter
import DpdkStdlib.Udp.Isolation
import DpdkStdlib.Udp.Limit
import DpdkStdlib.Udp.LockOrder
import DpdkStdlib.Udp.LongestPrefix
import DpdkStdlib.Udp.NaiveChecksum
import DpdkStdlib.Udp.Occupancy
import DpdkStdlib.Udp.Oversize
import DpdkStdlib.Udp.Ports
import DpdkStdlib.Udp.ReceiveQueue
import DpdkStdlib.Udp.Reports
import DpdkStdlib.Udp.Resolve
import DpdkStdlib.Udp.RoundRobin
import DpdkStdlib.Udp.Validity
import DpdkStdlib.Udp.VlanControl
import DpdkStdlib.Udp.Mixing
