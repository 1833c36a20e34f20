import UsbPeripheral.Gadget.Standard

/-!
# Control transfers

A SETUP packet is answered by the standard requests or by a handler of the device class, and the
answer is a reply.  `complete` turns the reply into exactly one operation on endpoint 0: data is
sent only to a host that asked for data, and taken only from a host that brings data.  Any other
reply is refused.
-/

namespace UsbPeripheral.Gadget

variable {σ P : Type} [Channel σ] [DeviceProfile P]

/-- The answer to a SETUP packet. -/
def answer (setup : Setup) : Dispatch σ P (Reply P) := do
  match setup.category with
  | .standard =>
    note (.standardRequest (StandardRequest.describe setup.request))
    standard setup
  | category =>
    match (← get).handlers.lookup category setup.request with
    | some h =>
      note (.routedRequest h.name category)
      let (reply, notes) ← consult fun p =>
        let handled := h.handler setup p
        ((handled.reply, handled.notes), handled.profile)
      noteAll notes
      return reply
    | none =>
      note (.unroutedRequest setup.request category)
      return .stall

/-- Refuse a request. -/
def refuse (setup : Setup) : Dispatch σ P Unit := do
  note (.stalling setup)
  call Channel.ep0Stall

/-- Carry a reply out on endpoint 0. -/
def complete (setup : Setup) (reply : Reply P) : Dispatch σ P Unit := do
  match reply, setup.direction with
  | .send data, .toHost =>
    let sent ← call (Channel.ep0Write (data.take setup.length.toNat))
    note (.sent sent data.length)
  | .ack, .toHost =>
    let _ ← call (Channel.ep0Write [])
  | .ack, .toDevice =>
    let data ← call (Channel.ep0Read setup.length.toNat)
    if 0 < data.length then note (.dropped data.length)
  | .receive handler, .toDevice =>
    let data ← call (Channel.ep0Read setup.length.toNat)
    note (.received data.length)
    let notes ← consult fun p =>
      let (p, notes) := handler setup data p
      (notes, p)
    noteAll notes
  | .stall, _ => refuse setup
  | reply, direction =>
    note (.mismatched reply.text direction)
    refuse setup

/-- Handle a SETUP packet. -/
def handleControl (setup : Setup) : Dispatch σ P Unit := do
  let reply ← answer setup
  complete setup reply

end UsbPeripheral.Gadget
