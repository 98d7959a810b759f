import Remit.Error

/-!
# Documents

A file with settings is a document in a language of its own. What reads it is not part of the settings: it is given with
the other things that a process finds around it.
-/

namespace Remit.Document

/-- Why a text could not be read as a document: it is none, or something else went wrong on the way. -/
inductive Fault where
  | noDocument (reason : Text)
  | failure (m : Mishap)

/-- What reads a text as a document. -/
abbrev Reader := Text → Except Fault Value

/-- The error that a fault of the document at a path is. Only that a text is no document is reported with the path. -/
def Fault.error (path : Text) : Fault → Error
  | .noDocument reason => .configFormat path (.remark reason)
  | .failure m => .mishap m

end Remit.Document
