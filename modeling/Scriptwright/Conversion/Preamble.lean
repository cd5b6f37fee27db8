import Scriptwright.Dialect
import Scriptwright.Settings.Basic
/-!
# The preamble

The lines that open every converted program, by dialect.
-/
namespace Scriptwright

/-- The lines before the converted script. -/
def preamble (s : Settings) : Dialect → List Text
  | .dataProcessing =>
    ["from pyspark.sql import SparkSession".toList,
     "import pyspark.sql.functions as F".toList,
     [],
     "# Initialize SparkSession".toList,
     s.sessionName ++ " = SparkSession.builder.appName('".toList ++ s.appName ++ "').getOrCreate()".toList,
     []]
  | .general => ["import os".toList, "import re".toList, "import sys".toList, []]

/-- The name under which a converted program is handed out, the same for every dialect. -/
def downloadName (_ : Dialect) : Text := "converted_code.py".toList

end Scriptwright
