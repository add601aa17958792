import RackManagement.Library.FallibleProgram
import RackManagement.Model.PldmPackage

/-!
# SCP transfers

`send_scp_file` as a program that sends requests to a stream and to a local file. Every request may
fail, be cancelled or time out.
-/

namespace RackManagement.Scp

open Library
open Pldm (Bytes fromUtf8Lossy)

def fileMode : String := "0644"

def errorMessageMaxBytes : Nat := 4 * 1024

def uploadBufferSizeBytes : Nat := 512 * 1024

structure ScpTransfer where
  host : String
  localPath : String
  remotePath : String
  fileName : String
  fileSizeBytes : UInt64
  stepTimeoutSecs : Nat

inductive SshError
  | scpOperationFailed (operation path details : String)
  | cancelled (operation host : String)
  | timeout (operation host : String) (timeoutSecs : Nat)

/-- What the upload asks of the channel and of the local file. -/
inductive Request
  | write (bytes : Bytes)
  | flush
  | receive
  | readLocal (capacity : Nat)
  | shutdown

inductive Ending
  | success
  | failed (error : String)
  | cancelled
  | timedOut
deriving DecidableEq

/-- The answer to a request: how it ended, the bytes that were moved until then, and the byte received. -/
structure Reply where
  ending : Ending
  amount : Nat
  byte : UInt8

/-- The bytes of a request that reach the stream. A write that does not succeed has written a part. -/
def sentBy : Request × Reply → Bytes
  | (.write bytes, reply) => if reply.ending = .success then bytes else bytes.take reply.amount
  | _ => []

def receivedBy : Request × Reply → Bytes
  | (.receive, reply) => if reply.ending = .success then [reply.byte] else []
  | _ => []

inductive Stop
  | error (error : SshError)
  | cancelled
  | timedOut

/-- The state is the part of the local file that has not been read. -/
abbrev Step (α : Type) := FallibleProgram Bytes Request Reply Stop α

abbrev Upload (α : Type) := FallibleProgram Bytes Request Reply SshError α

def perform (request : Request) (error : String → SshError) : Step Reply := do
  let reply ← FallibleProgram.send request
  match reply.ending with
  | .success => return reply
  | .failed details => throw (.error (error details))
  | .cancelled => throw .cancelled
  | .timedOut => throw .timedOut

def scpSinkCommand (remotePath : String) : String :=
  -- a leading dash would be read as an option by the remote process
  let remotePath := if startsWith "-" remotePath then s!"./{remotePath}" else remotePath
  let quotedPath :=
    String.ofList (remotePath.toList.flatMap (fun c => if c = '\'' then "'\"'\"'".toList else [c]))
  s!"scp -t '{quotedPath}'"

section Transfer

variable (transfer : ScpTransfer)

def withScpTimeoutAndCancellation {α : Type} (operation : String) (step : Step α) : Upload α :=
  FallibleProgram.mapError (fun stop => match stop with
    | .error error => error
    | .cancelled => .cancelled operation transfer.host
    | .timedOut => .timeout operation transfer.host transfer.stepTimeoutSecs) step

/-- Whether a response is complete; an error response ends with a newline. -/
def parseScpResponse (operation : String) (response : Bytes) : Except SshError Bool :=
  let fails := fun details => .error (.scpOperationFailed operation transfer.remotePath details)
  match response with
  | [] => .ok false
  | status :: message =>
    if status = 0 then
      if message.isEmpty then .ok true else fails "remote sent data after a successful SCP response"
    else if status = 1 ∨ status = 2 then
      match response.idxOf? 10 with
      | none =>
        if response.length ≤ errorMessageMaxBytes + 1 then .ok false
        else fails s!"remote SCP error exceeded {errorMessageMaxBytes} bytes"
      | some newlineIndex =>
        -- the slice from 1 exists, since the first byte is not a newline
        let text := fromUtf8Lossy ((response.take newlineIndex).drop 1)
        let severity := if status = 1 then "recoverable" else "fatal"
        fails s!"remote reported {severity} error: {text}"
    else fails s!"remote returned invalid SCP response byte {status}"

/-- Reads byte by byte. A response that is longer than an error may be is refused, so that the fuel suffices. -/
def responseLoop (operation : String) : (fuel : Nat) → Bytes → Step Unit
  | 0, _ =>
    throw (.error (.scpOperationFailed operation transfer.remotePath
      s!"remote SCP error exceeded {errorMessageMaxBytes} bytes"))
  | fuel + 1, response => do
    let reply ← perform .receive (fun error =>
      .scpOperationFailed operation transfer.remotePath s!"could not read SCP response: {error}")
    let response := response ++ [reply.byte]
    match parseScpResponse transfer operation response with
    | .error error => throw (.error error)
    | .ok true => return ()
    | .ok false => responseLoop operation fuel response

def readScpResponse (operation : String) : Step Unit :=
  responseLoop transfer operation (errorMessageMaxBytes + 2) []

def controlRecord : Bytes :=
  (s!"C{fileMode} {transfer.fileSizeBytes} {transfer.fileName}\n").toUTF8.data.toList

def writeAndFlush (bytes : Bytes) (writing flushing : String) : Step Unit := do
  let _ ← perform (.write bytes) (fun error => .scpOperationFailed writing transfer.remotePath error)
  let _ ← perform .flush (fun error => .scpOperationFailed flushing transfer.remotePath error)
  return ()

def writeScpControlRecord : Upload Unit := do
  withScpTimeoutAndCancellation transfer "SCP control record write"
    (writeAndFlush transfer (controlRecord transfer) "control record write" "control record flush")
  withScpTimeoutAndCancellation transfer "SCP control response"
    (readScpResponse transfer "control response")

/-- What a read returns: any part that fits, and nothing only at the end of the file. -/
def nextChunk (amount capacity : Nat) (source : Bytes) : Bytes := source.take (max 1 (min amount capacity))

def readLocalFile (capacity : Nat) : Step Bytes := do
  let reply ← perform (.readLocal capacity)
    (fun error => .scpOperationFailed "local file read" transfer.localPath error)
  let source ← FallibleProgram.read
  let chunk := nextChunk reply.amount capacity source
  FallibleProgram.update (fun source => source.drop chunk.length)
  return chunk

def localReadFailed (details : String) : SshError :=
  .scpOperationFailed "local file read" transfer.localPath details

def writeChunk (chunk : Bytes) : Step Unit := do
  let _ ← perform (.write chunk)
    (fun error => .scpOperationFailed "file data write" transfer.remotePath error)
  return ()

/-- Each round moves at least one byte, so that as many rounds suffice as bytes remain. -/
def payloadLoop : (fuel remaining bytesSent : Nat) → Upload Nat
  | 0, _, bytesSent => return bytesSent
  | fuel + 1, remaining, bytesSent => do
    if remaining = 0 then return bytesSent
    else
      let readCapacity := min remaining uploadBufferSizeBytes
      if uploadBufferSizeBytes < readCapacity then
        throw (localReadFailed transfer "calculated read size exceeded the transfer buffer")
      else
        let chunk ← withScpTimeoutAndCancellation transfer "SCP local file read"
          (readLocalFile transfer readCapacity)
        if chunk.length = 0 then
          throw (localReadFailed transfer
            s!"file ended after {bytesSent} bytes; control record declared {transfer.fileSizeBytes}")
        else if uploadBufferSizeBytes < chunk.length then
          throw (localReadFailed transfer
            s!"read {chunk.length} bytes into a {uploadBufferSizeBytes} byte transfer buffer")
        else
          withScpTimeoutAndCancellation transfer "SCP file data write" (writeChunk transfer chunk)
          payloadLoop fuel (remaining - chunk.length) (bytesSent + chunk.length)

def writeScpPayload : Upload Nat :=
  payloadLoop transfer transfer.fileSizeBytes.toNat transfer.fileSizeBytes.toNat 0

def shutdownStream : Step Unit := do
  let _ ← perform .shutdown (fun error => .scpOperationFailed "channel shutdown" transfer.remotePath error)
  return ()

def finishScpFile : Upload Unit := do
  withScpTimeoutAndCancellation transfer "SCP file terminator write"
    (writeAndFlush transfer [0] "file terminator write" "file terminator flush")
  withScpTimeoutAndCancellation transfer "SCP final response" (readScpResponse transfer "final response")
  withScpTimeoutAndCancellation transfer "SCP channel shutdown" (shutdownStream transfer)

/-- The control record, the payload and the final exchange. -/
def sendScpFile : Upload Nat := do
  writeScpControlRecord transfer
  let bytesSent ← writeScpPayload transfer
  finishScpFile transfer
  return bytesSent

end Transfer

end RackManagement.Scp
