import Kro.Parser.Document
import Kro.Parser.Unicode
import Kro.Parser.Strings
import Kro.Parser.Path
import Kro.Parser.Parser
import Kro.Graph.Validation
import Kro.Graph.Theorems.Naming
import Kro.Parser.Leaves
import Kro.Parser.Theorems.Extraction
import Kro.Parser.Theorems.Order
import Kro.Parser.Theorems.Conformance
import Kro.Parser.Theorems.Safety
import Kro.Parser.Theorems.Standalone
import Kro.Parser.Theorems.PathDecoding
import Kro.Parser.Theorems.Paths
import Kro.Parser.Theorems.Descriptors
import Kro.Graph.Theorems.ObjectStructure
import Kro.Cel.Environment
import Kro.Parser.Theorems.Normalization
import Kro.Parser.Heap
import Kro.Parser.Denotation
import Kro.Parser.Theorems.HeapRun
import Kro.Parser.Theorems.Refinement
import Kro.Parser.Theorems.Stability
import Kro.Parser.Theorems.Errors
import Kro.Parser.Theorems.Acceptance
