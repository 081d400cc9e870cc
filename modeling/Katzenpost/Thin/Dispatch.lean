import Katzenpost.Core.Types

set_option autoImplicit false

namespace Katzenpost

open Go

abbrev AppId := Bytes

abbrev QueryId := Bytes

-- The replies that answer one query, and differ in nothing that routing looks at.
inductive ReplyKind where
  | newKeypair
  | encryptRead
  | encryptWrite
  | startResendingEncryptedMessage
  | cancelResendingEncryptedMessage
  | startResendingCopyCommand
  | cancelResendingCopyCommand
  | nextMessageBoxIndex
  | getMessageBoxIndexCounter
  | getPKIDocument
  | createCourierEnvelopesFromPayload
  | createCourierEnvelopesFromPayloads
  | createCourierEnvelopesFromTombstoneRange
deriving DecidableEq

structure ConnectionStatus where
  isConnected : Bool
  instanceToken : Bytes
  sphinxGeometry : Option Bytes
  pigeonholeGeometry : Option Bytes
deriving DecidableEq

inductive ThinResponse where
  | sessionTokenReply (appID : AppId) (resumed : Bool)
  | shutdownEvent
  | connectionStatusEvent (status : ConnectionStatus)
  | newPKIDocumentEvent (payload : Bytes)
  | messageSentEvent (messageID : Option Bytes) (err : Bytes)
  | messageReplyEvent (messageID surbID payload : Option Bytes) (errorCode : UInt8)
  | messageIDGarbageCollected (messageID : Bytes)
  | reply (kind : ReplyKind) (queryID : Option QueryId) (errorCode : UInt8)
  | nothing
deriving DecidableEq

inductive ThinEvent where
  | message (m : ThinResponse)
  | newDocument (document : Document)
  | daemonDisconnected (graceful : Bool)
deriving DecidableEq

structure ThinClient where
  isConnected : Bool
  daemonInstanceToken : Bytes
  sphinxGeo : Option Bytes
  pigeonGeo : Option Bytes
  pkidoc : Option Document
  pkiDocCache : GoMap UInt64 Document
  sentWaitChanMap : List Bytes
  replyWaitChanMap : List Bytes
deriving DecidableEq

def newThinClient : ThinClient where
  isConnected := false
  daemonInstanceToken := []
  sphinxGeo := none
  pigeonGeo := none
  pkidoc := none
  pkiDocCache := ∅
  sentWaitChanMap := []
  replyWaitChanMap := []

def maxCachedEpochs : UInt64 := 5

def ThinClient.parsePKIDoc (unmarshal : Bytes → Option Document) (t : ThinClient) (payload : Bytes) :
    ThinClient × Option Document :=
  match unmarshal payload with
  | none => (t, none)
  | some doc =>
      let cache := t.pkiDocCache.insert doc.epoch doc
      let oldestEpoch := doc.epoch - maxCachedEpochs
      let kept := if cache.size > maxCachedEpochs.toNat then cache.filter fun epoch _ => oldestEpoch ≤ epoch else cache
      ({ t with pkidoc := some doc, pkiDocCache := kept }, some doc)

inductive Routed where
  | eventSink (event : ThinEvent)
  | sentWaitChan (messageID : Bytes) (err : Bytes)
  | replyWaitChan (messageID : Bytes)
  | nowhere
deriving DecidableEq

def ThinClient.dispatchMessage (unmarshal : Bytes → Option Document) (t : ThinClient) (m : ThinResponse) :
    ThinClient × Routed :=
  match m with
  | .connectionStatusEvent status =>
      ({ t with
          isConnected := status.isConnected
          sphinxGeo := status.sphinxGeometry.orElse fun _ => t.sphinxGeo
          pigeonGeo := status.pigeonholeGeometry.orElse fun _ => t.pigeonGeo },
        .eventSink (.message m))
  | .newPKIDocumentEvent payload =>
      match t.parsePKIDoc unmarshal payload with
      | (t', some doc) => (t', .eventSink (.newDocument doc))
      | (t', none) => (t', .nowhere)
  | .messageSentEvent (some messageID) err =>
      if t.sentWaitChanMap.contains messageID then (t, .sentWaitChan messageID err) else (t, .eventSink (.message m))
  | .messageReplyEvent (some messageID) _ _ _ =>
      if t.replyWaitChanMap.contains messageID then (t, .replyWaitChan messageID) else (t, .eventSink (.message m))
  | .shutdownEvent => (t, .nowhere)
  | .nothing => (t, .nowhere)
  | _ => (t, .eventSink (.message m))

end Katzenpost
