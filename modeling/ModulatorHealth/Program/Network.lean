import ModulatorHealth.Http.Client
import ModulatorHealth.Http.Wire
import Std.Async.DNS
import Std.Async.TCP
import Std.Async.Timer

/-! Requests over the network, in plain HTTP. -/
namespace ModulatorHealth.Program

open Std.Async Std.Net

partial def receiveAll (socket : TCP.Socket.Client) (received : ByteArray) : Async ByteArray := do
  match ← socket.recv? 65536 with
  | some more => receiveAll socket (received ++ more)
  | none => return received

def socketAddress (port : UInt16) : IPAddr → SocketAddress
  | .v4 addr => .v4 ⟨addr, port⟩
  | .v6 addr => .v6 ⟨addr, port⟩

def converse (request : Http.Request) : Async Http.Exchange := do
  let port := request.url.port.getD 80
  let addresses ← DNS.getAddrInfo request.url.host.address (toString port)
  match addresses.toList with
  | [] => return .failed "no address"
  | address :: _ =>
    let socket ← TCP.Socket.Client.mk
    socket.connect (socketAddress port.toUInt16 address)
    socket.send request.text.toUTF8
    let bytes ← receiveAll socket .empty
    match Http.Response.parse? bytes.toList with
    | some response => return .answered response
    | none => return .failed "connection closed"

def send (timeoutSecs : Option UInt64) (request : Http.Request) : IO Http.Exchange := do
  if request.url.secure then return .failed "no secure connections"
  let guarded : Async Http.Exchange :=
    match timeoutSecs with
    | none => converse request
    | some secs =>
      Async.race (converse request) do
        sleep (Std.Time.Millisecond.Offset.ofNat (secs.toNat * 1000))
        return .failed "operation timed out"
  try guarded.block
  catch e => return .failed (toString e)

def ask (base : String) (timeoutSecs : Option UInt64) (call : Call) : IO (Reply call.Result) :=
  match call.request? base with
  | none => return .error Http.unusableAddress
  | some request => return Http.interpret call (← send timeoutSecs request)

end ModulatorHealth.Program
