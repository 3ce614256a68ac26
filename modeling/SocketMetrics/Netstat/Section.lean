import SocketMetrics.Text.Basic
/-!
The logical sections of the protocol counter table and the headers that introduce their lines.
Several headers may fold into one section. One header is known and not collected.
-/

set_option autoImplicit false
set_option relaxedAutoImplicit false

namespace SocketMetrics.Netstat

/-- A logical section of the table. -/
inductive Section where
  | tcp
  | ip
  | icmp
  | icmpMessages
  | udp
  | udplite
  | arista
deriving DecidableEq, Repr

/-- The name of a section in metric names and messages. -/
def Section.name : Section → Text
  | tcp => "tcp".toList
  | ip => "ip".toList
  | icmp => "icmp".toList
  | icmpMessages => "icmpmsg".toList
  | udp => "udp".toList
  | udplite => "udplite".toList
  | arista => "arista".toList

/-- The headers of the lines that are collected, each with its section. -/
def headers : List (Text × Section) := [
  ("TcpExt:".toList, .tcp),
  ("IpExt:".toList, .ip),
  ("Ip:".toList, .ip),
  ("Icmp:".toList, .icmp),
  ("IcmpMsg:".toList, .icmpMessages),
  ("Tcp:".toList, .tcp),
  ("Udp:".toList, .udp),
  ("UdpLite:".toList, .udplite),
  ("Arista:".toList, .arista)]

/-- The header of lines that recent kernels write and that are passed over. -/
def unsupportedHeader : Text :=
  "MPTcpExt:".toList

/-- The section into which a header folds. -/
def Section.ofHeader? (header : Text) : Option Section :=
  headers.lookup header

end SocketMetrics.Netstat
