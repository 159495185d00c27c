import RequestRouting.Execution

/-!
# Adopting request identifiers

The identifier in the request's header, if it is well-formed, becomes the identifier of the
request; the response carries the identifier in the same header.
-/

set_option autoImplicit false

namespace RequestRouting.RequestIdHeader

def adopt (e : Execution) : Execution :=
  match (e.context.header? RequestId.headerName).map RequestId.read with
  | none => e
  | some (.ok id) => e.mapContext fun c => { c with requestId := id }
  | some (.error invalid) =>
    e.log (.entry .debug "Ignoring malformed x-request-id header"
      [e.idField, ("header_value", .text invalid.value), ("error", .text invalid.fault.message)])

def stamp (e : Execution) : Execution :=
  e.mapContext fun c =>
    { c with response := c.response.setHeader RequestId.headerName c.requestId.text }

def run (advance : Step) : Step := fun e =>
  match advance (adopt e) with
  | (.panicked payload, after) => (.panicked payload, after)
  | (outcome, after) => (outcome, stamp after)

end RequestRouting.RequestIdHeader
