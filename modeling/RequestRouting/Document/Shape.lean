/-!
# The shape of records

Which parts of a document are read. The rest of it is passed over.
-/

set_option autoImplicit false

namespace RequestRouting.Document

inductive Shape where
  | single
  | list (items : Shape)
  | record (fields : List (String × Shape))

end RequestRouting.Document
