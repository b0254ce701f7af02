/-
# The address of the relay

The relay is given by an address with or without a scheme. Blanks around it do not count,
and without a scheme it is taken as the address of a web server. It is kept as it is
written, but it has to be a URL with a host. Whether it can be dialled is found out when a
stream is opened.
-/

import NodeTelemetry.Duration
import NodeTelemetry.Fault
import NodeTelemetry.Url.Basic
import NodeTelemetry.Url.Dialable

namespace NodeTelemetry.Relay

/-- The address of a relay with its scheme. -/
structure Endpoint where
  text : String
  deriving DecidableEq, Repr

/-- Why an address is none of a relay. -/
inductive AddressFault where
  | invalid (address : String) (cause : Url.Fault)
  | noHost (address : String)
  deriving DecidableEq, Repr

def AddressFault.message : AddressFault → String
  | .invalid address cause => "Invalid relay address: " ++ address ++ ": " ++ cause.message
  | .noHost address => "No host in relay address: " ++ address

/-- Why no stream to a relay is opened. -/
inductive DialFault where
  /-- The endpoint cannot be dialled. -/
  | notDialable
  /-- Nobody answers. -/
  | unreachable
  deriving DecidableEq, Repr

def DialFault.message : DialFault → String
  | .notDialable => "invalid URI"
  | .unreachable => "transport error"

namespace Endpoint

/-- What separates a scheme from the rest. -/
def separator : String := "://"

/-- The scheme of an address without one. -/
def usualScheme : String := "http"

/-- Whether a text occurs in another one. -/
def occursIn (part : List Char) : List Char → Bool
  | [] => part.isEmpty
  | c :: rest => part.isPrefixOf (c :: rest) || occursIn part rest

/-- The address with its scheme. -/
def withScheme (address : String) : String :=
  if occursIn separator.toList address.toList then address
  else usualScheme ++ separator ++ address

/-- The endpoint at an address. -/
def ofAddress (address : String) : Except AddressFault Endpoint :=
  let address := String.ofList (Text.trim address.toList)
  match Url.read (withScheme address) with
  | .error cause => .error (.invalid address cause)
  | .ok url =>
    if url.host.isNone then .error (.noHost address) else .ok ⟨withScheme address⟩

/-- Why a stream to an endpoint cannot be opened, if it cannot; `answers` says whether
somebody answers at a URL. -/
def dialFault? (endpoint : Endpoint) (answers : String → Bool) : Option DialFault :=
  if !Url.isDialable endpoint.text then some .notDialable
  else if !answers endpoint.text then some .unreachable
  else none

/-- The fault of an endpoint that a stream cannot be opened to. -/
def openFault (endpoint : Endpoint) (cause : DialFault) : Fault :=
  .deliveryOpen (endpoint.text ++ ": " ++ cause.message)

end Endpoint

/-- How the relay is talked to. -/
structure Connection where
  endpoint : Endpoint := ⟨"http://localhost:50051"⟩
  /-- How long dialling may take. -/
  connectLimit : Duration := .ofSeconds 10
  /-- How long sending a snapshot may take. -/
  sendLimit : Duration := .ofSeconds 10
  /-- How long the relay may take to confirm that a stream is closed. -/
  confirmLimit : Duration := .ofSeconds 5
  /-- How often an idle connection is tried. -/
  keepaliveInterval : Duration := .ofSeconds 30
  /-- How long an idle connection may take to answer. -/
  keepaliveLimit : Duration := .ofSeconds 10

end NodeTelemetry.Relay
