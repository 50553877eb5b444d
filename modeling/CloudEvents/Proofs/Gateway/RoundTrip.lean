import CloudEvents.Gateway.Listener
import CloudEvents.Proofs.Binary.Relevance
import CloudEvents.Proofs.Event.Arising
import CloudEvents.Proofs.Gateway.Variables
import CloudEvents.Proofs.Listener.Answer

/-! Events posted to a gateway as variables and a stream, and sent back. -/
namespace CloudEvents

open Binary Text
open Gateway.Environ
  (Plain PlainChar headersOf lengthVariable standsForHeader variableName variableOf)

variable {d : Draft} {e : Event} {s : Settings} {env : Gateway.Environ} {name : String}

namespace Event

end Event

namespace Gateway

variable {received : Event} {context : SpanContext}

end Gateway

end CloudEvents
