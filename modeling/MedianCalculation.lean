import MedianCalculation.Basic
import MedianCalculation.Double
import MedianCalculation.Cube
import MedianCalculation.VectorInfo
import MedianCalculation.Extract
import MedianCalculation.Config
import MedianCalculation.Shoot
import MedianCalculation.Catalog
import MedianCalculation.Serial
import MedianCalculation.NvmeBenchmark.Program
import MedianCalculation.NvmeBenchmark.Write
import MedianCalculation.NvmeBenchmark.Read
import MedianCalculation.NvmeBenchmark.Progress
import MedianCalculation.OpenAndMap
