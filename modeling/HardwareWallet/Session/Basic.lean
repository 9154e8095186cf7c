import HardwareWallet.Channel
import HardwareWallet.Progress.Basic
import HardwareWallet.Transport.Basic

/-!
A session is one connection to one device. It sends one request at a time, waits for its reply,
publishes it and follows the protocol with it. A link that fails ends the connection.
-/

namespace HardwareWallet

inductive Connection where
  | detached
  | attached
  | connected
  | disconnected
  | failed
  deriving DecidableEq

def Connection.text : Connection → String
  | detached => "detached"
  | attached => "attached"
  | connected => "connected"
  | disconnected => "disconnected"
  | failed => "failed"

structure Session (τ : Type) where
  link : τ
  timeout : Timeout
  connection : Connection := .detached
  channel : Channel := {}
  progress : Progress := {}
  log : List Notice := []

namespace Session

variable {τ : Type} [Transport τ]

def create (link : τ) (timeout : Timeout) (channel : Channel) (policy : PinPolicy) : Session τ :=
  { link := link
    timeout := timeout
    channel := channel
    progress := { authentication := { policy := policy } }
    log := [.sessionCreated (Transport.path link)] }

def note (s : Session τ) (notices : List Notice) : Session τ :=
  { s with log := s.log ++ notices }

def publish (s : Session τ) (e : Event) : Session τ :=
  let (channel, notices) := s.channel.publish e
  { s with channel := channel }.note notices

def fire (s : Session τ) (kind : EventKind) (message : Option Message) : Session τ :=
  s.publish ⟨kind, message⟩

def observe (request reply : Message) : Attempt (Session τ) Unit := fun s =>
  let (progress, notices, outcome) := s.progress.observe request reply
  (outcome, { s with progress := progress }.note notices)

def onLink {α : Type} (x : Attempt τ α) : Attempt (Session τ) α :=
  x.onPart (fun s => s.link) fun s l => { s with link := l }

def attach : Attempt (Session τ) Bool := do
  let present ← onLink Transport.present
  let s ← Attempt.get
  if !present then return false
  if s.connection = .detached ∨ s.connection = .disconnected ∨ s.connection = .failed then
    Attempt.modify fun s => { s with connection := .attached }.fire .deviceAttached none
  return true

def connectFailed (cause : String) (s : Session τ) : Session τ :=
  { s with connection := .failed }.note [.connectFailed (Transport.path s.link) cause]

def connect : Attempt (Session τ) Bool := fun s =>
  if s.connection = .connected then (.ok true, s)
  else match onLink Transport.connect s with
  | (.ok (), s) => (.ok true, { s with connection := .connected }.fire .deviceConnected none)
  | (.error (.transport cause), s) => (.ok false, s.connectFailed cause)
  | (.error e, s) => (.error e, s)

def closeLink : Attempt (Session τ) Unit := fun s =>
  match onLink Transport.disconnect s with
  | (.error (.transport _), s) => (.ok (), s)
  | result => result

def disconnect : Attempt (Session τ) Unit := fun s =>
  if s.connection ≠ .connected then (.ok (), s)
  else match closeLink s with
  | (.ok (), s) => (.ok (), { s with connection := .disconnected }.fire .deviceDisconnected none)
  | (.error e, s) => (.error e, s)

def breakOff {α : Type} (failure : Option Message) (e : Error) : Attempt (Session τ) α := fun s =>
  match closeLink s with
  | (.ok (), s) => (.error e, { s with connection := .failed }.fire .deviceFailed failure)
  | (.error e', s) => (.error e', s)

def call (request : Message) : Attempt (Session τ) Message := fun s =>
  if s.connection ≠ .connected then (.error .notConnected, s)
  else match onLink (Transport.exchange request s.timeout) s with
  | (.error (.transport cause), s) => breakOff none (.disconnected cause) s
  | (.error e, s) => (.error e, s)
  | (.ok none, s) =>
    -- the failure is written before anything is done about it
    if s.timeout.isWritable then
      let e := Error.replyMissing request.name s.timeout
      breakOff (some (.failure .timeout (.text e.message))) e s
    else (.error .unwritable, s)
  | (.ok (some reply), s) =>
    match EventKind.ofReply? reply with
    | none => breakOff none (.unexpectedReply reply.name) s
    | some kind =>
      match observe request reply (s.fire kind (some reply)) with
      | (.ok (), s) => (.ok reply, s)
      | (.error e, s) => (.error e, s)

end Session

end HardwareWallet
