import Gamebook.Surroundings.Kinds.Faults
import Gamebook.Surroundings.Kinds.Members
import Gamebook.Surroundings.Kinds.Things
import Gamebook.Surroundings.Kinds.Traces
import Gamebook.Surroundings.Kinds.Values

/-!
# The catalogue of kinds

The kinds that a field of a template can reach in the standard surroundings.
-/

namespace Gamebook.Template

/-- All kinds. -/
def catalogue : List Kind :=
  [anyKind, kindKind, nothingKind, truthKind, wholeKind, fractionKind, textKind, bytesKind,
   tupleKind, listKind, objectKind, anyFaultKind, faultKind, valueFaultKind, codingFaultKind,
   decodingFaultKind, typeFaultKind, propertyFaultKind, diskFaultKind, missingFaultKind,
   isFolderFaultKind, notFolderFaultKind, methodKind, wrapperKind, attributeKind, slotKind,
   sharedKind, boundMethodKind, boundWrapperKind, freeKind, rosterKind, remarkedKind, traceKind,
   frameKind, codeKind, routineKind, anyFileKind, anyTextFileKind, textFileKind, anyByteFileKind,
   byteFileKind, anyRawFileKind, rawFileKind, findingKind, patternKind, libraryKind] ++
  decoderKinds ++ plainKinds

end Gamebook.Template
