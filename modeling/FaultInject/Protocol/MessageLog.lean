import FaultInject.Construction.PcapHello

/-
This file states the format of a client log with message blocks. The option `-msg` prints it.
-/

namespace FaultInject.Protocol
open Python PcapHello

/-- These are the lines of a dump. A line has at most 16 bytes. -/
def dump (body : Bytes) : List Char :=
  "   ".toList ++ body.zipIdx.flatMap (fun (byte, index) =>
    (if 0 < index ∧ index % 16 = 0 then "\n   ".toList else []) ++
      ' ' :: (formatHex 2 byte.toNat).toList) ++ ['\n']

/-- A message block is a header line and the dump of the message. Other lines may precede it. -/
structure MessageBlock where
  opening : String
  content : String
  length : Nat
  details : String
  body : Bytes
  plainOpening : '[' ∉ opening.toList
  plainContent : '[' ∉ content.toList
  plainDetails : '[' ∉ details.toList

namespace MessageBlock
variable (block : MessageBlock)

/-- This is the part of the header line before the length. -/
def label : List Char := block.opening.toList ++ ", ".toList ++ block.content.toList ++ [' ']

def lengthLabel : List Char := "length ".toList

/-- These are the rest of the header line and the dump. -/
def rest : List Char :=
  lengthLabel ++ (formatHex 4 block.length).toList ++ ']' :: block.details.toList ++
    '\n' :: dump block.body

def text : List Char := block.label ++ '[' :: block.rest

def IsServerHello : Prop := block.content = "Handshake" ∧ block.details = ", ServerHello"

/-- The message carries the random of RFC 8446. -/
def IsRetry : Prop := block.IsServerHello ∧ slice block.body 6 38 = hrrRandom

/-- The message is a ServerHello and not a HelloRetryRequest. -/
def IsReal : Prop := block.IsServerHello ∧ slice block.body 6 38 ≠ hrrRandom

/-- The header line has the label of a ServerHello, or a longer one. -/
def Labelled : Prop :=
  "Handshake".toList <:+ block.content.toList ∧ ", ServerHello".toList <+: block.details.toList

instance : Decidable block.IsServerHello := inferInstanceAs (Decidable (_ ∧ _))

instance : Decidable block.IsRetry := inferInstanceAs (Decidable (_ ∧ _))

instance : Decidable block.IsReal := inferInstanceAs (Decidable (_ ∧ _))

instance : Decidable block.Labelled := inferInstanceAs (Decidable (_ ∧ _))

end MessageBlock

/-- A client log is a list of message blocks. Other lines may follow it. -/
structure MessageLog where
  blocks : List MessageBlock
  ending : String
  plainEnding : '[' ∉ ending.toList

def MessageLog.text (log : MessageLog) : String :=
  String.ofList (log.blocks.flatMap MessageBlock.text ++ log.ending.toList)

end FaultInject.Protocol
