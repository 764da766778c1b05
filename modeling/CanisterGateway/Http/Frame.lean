import CanisterGateway.Http.Message

/-!
# Bodies in frames

A body arrives in frames: data, trailers, or the news that reading failed. Collecting it joins the
data up to the end; trailers are forgotten, and the first failure is the failure of the whole, so
nothing after it is looked at.
-/

namespace CanisterGateway.Http

/-- A part of a body. -/
inductive Frame
  | data (bytes : Bytes)
  | trailers (fields : List RawField)
  | failure (reason : String)
  deriving DecidableEq

namespace Frame

/-- The bytes that a frame adds to the body. -/
def content : Frame → Bytes
  | data bytes => bytes
  | trailers _ => []
  | failure _ => []

/-- Joins the data of the frames, up to the first failure. -/
def collect : List Frame → Except String Bytes
  | [] => .ok []
  | data bytes :: rest => (collect rest).map (bytes ++ ·)
  | trailers _ :: rest => collect rest
  | failure reason :: _ => .error reason

end Frame
end CanisterGateway.Http
