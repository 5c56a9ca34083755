/-!
# Status codes

Codes of three digits, and the phrases registered for them.
-/

namespace Catalogue.Http

/-- A status code. -/
structure Status where
  code : Nat
  range : 100 ≤ code ∧ code ≤ 999
  deriving DecidableEq

namespace Status

/-- The status with this code, if it has three digits. -/
def of? (code : Int) : Option Status :=
  if h : 100 ≤ code ∧ code ≤ 999 then some ⟨code.toNat, by omega⟩ else none

def ok : Status := ⟨200, by decide⟩
def accepted : Status := ⟨202, by decide⟩
def badRequest : Status := ⟨400, by decide⟩
def notFound : Status := ⟨404, by decide⟩
def methodNotAllowed : Status := ⟨405, by decide⟩
def unprocessable : Status := ⟨422, by decide⟩
def internalError : Status := ⟨500, by decide⟩

/-- Whether the status reports success. -/
def isSuccess (s : Status) : Bool := 200 ≤ s.code && s.code < 300

/-- The phrases registered for codes. -/
def phrases : List (Nat × String) :=
  [(100, "Continue"), (101, "Switching Protocols"), (102, "Processing"), (103, "Early Hints"),
   (200, "OK"), (201, "Created"), (202, "Accepted"), (203, "Non Authoritative Information"),
   (204, "No Content"), (205, "Reset Content"), (206, "Partial Content"), (207, "Multi-Status"),
   (208, "Already Reported"), (226, "IM Used"),
   (300, "Multiple Choices"), (301, "Moved Permanently"), (302, "Found"), (303, "See Other"),
   (304, "Not Modified"), (305, "Use Proxy"), (307, "Temporary Redirect"),
   (308, "Permanent Redirect"),
   (400, "Bad Request"), (401, "Unauthorized"), (402, "Payment Required"), (403, "Forbidden"),
   (404, "Not Found"), (405, "Method Not Allowed"), (406, "Not Acceptable"),
   (407, "Proxy Authentication Required"), (408, "Request Timeout"), (409, "Conflict"),
   (410, "Gone"), (411, "Length Required"), (412, "Precondition Failed"),
   (413, "Payload Too Large"), (414, "URI Too Long"), (415, "Unsupported Media Type"),
   (416, "Range Not Satisfiable"), (417, "Expectation Failed"), (418, "I'm a teapot"),
   (421, "Misdirected Request"), (422, "Unprocessable Entity"), (423, "Locked"),
   (424, "Failed Dependency"), (425, "Too Early"), (426, "Upgrade Required"),
   (428, "Precondition Required"), (429, "Too Many Requests"),
   (431, "Request Header Fields Too Large"), (451, "Unavailable For Legal Reasons"),
   (500, "Internal Server Error"), (501, "Not Implemented"), (502, "Bad Gateway"),
   (503, "Service Unavailable"), (504, "Gateway Timeout"), (505, "HTTP Version Not Supported"),
   (506, "Variant Also Negotiates"), (507, "Insufficient Storage"), (508, "Loop Detected"),
   (510, "Not Extended"), (511, "Network Authentication Required")]

/-- The phrase for a status, if one is registered. -/
def phrase? (s : Status) : Option String := (phrases.find? fun p => p.1 == s.code).map (·.2)

/-- The phrase for a status. -/
def phrase (s : Status) : String := s.phrase?.getD "Unknown"

end Status

end Catalogue.Http
