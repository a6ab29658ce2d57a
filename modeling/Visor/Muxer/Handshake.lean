import Visor.Library.Text
import Visor.Machine.Words

/-! The `CONNECT` line with which a host client opens a connection. -/

namespace Visor.Muxer
open Library

inductive MuxerError where
  | io (error : IoError)
  | invalidHandshake (message : String)
  | portExhausted

inductive HandshakeRead where
  | line (text : List Char)
  | closed
  | failed (error : IoError)
  | timeout

def parseU32 (text : List Char) : Option U32 :=
  (parseUnsigned (2 ^ 32) text).map (BitVec.ofNat 32)

def connectKeyword : List Char := "CONNECT ".toList

def readConnectHandshake : HandshakeRead → Except MuxerError U32
  | .closed => .error (.invalidHandshake "connection closed before handshake")
  | .failed error => .error (.io error)
  | .timeout => .error (.invalidHandshake "handshake timeout")
  | .line text =>
    let trimmed := trim text
    if connectKeyword.isPrefixOf trimmed then
      let portStr := trimmed.drop connectKeyword.length
      match parseU32 portStr with
      | some port => .ok port
      | none => .error (.invalidHandshake ("invalid port number: " ++ String.ofList portStr))
    else
      .error (.invalidHandshake ("expected 'CONNECT <port>', got: " ++ String.ofList trimmed))

end Visor.Muxer
